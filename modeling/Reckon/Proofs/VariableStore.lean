import Mathlib
import Reckon.Proofs.Rendering

/-!
Contract: the variables are a last-write-wins store.

Replaying a sequence of declarations and resets from no bindings
(`Bindings.replay`) leaves, for each name declared since the last reset, the
value of its last declaration (`Bindings.LastDeclared`) and nothing else.
Looking a name up reads that value, the count is the number of such names,
the store is empty exactly when the count is zero, and the listing holds each
such name once with its value, in strictly increasing byte order of the names'
UTF-8 texts (`Bindings.replay_last_write_wins`).

Why it holds: the entries stay strictly sorted by name (`Bindings.Sorted`), so
a declaration replaces the one old entry of its name (`mem_insertSorted_iff`)
and a lookup finds the only entry of a name. The names are compared by code
point; UTF-8 writes a code point as its base-64 digits behind a lead byte that
grows with the number of digits, so the code-point order of texts is the
byte order of their encodings (`lt_iff_utf8Bytes_lt`).

Owns: `utf8Bytes`, `Bindings.Sorted`, `Bindings.Change`, `Bindings.replay`,
`Bindings.LastDeclared`, `Bindings.DeclaredSinceReset`.
Does not own: what a line declares (`Reckon.Proofs.Lines`).
-/

set_option autoImplicit false

namespace Reckon

/-! ### The byte order of names -/

/-- The bytes of a text's UTF-8 encoding. -/
def utf8Bytes (s : String) : List UInt8 :=
  s.toUTF8.data.toList

theorem utf8Bytes_eq_flatMap (s : String) :
    utf8Bytes s = s.toList.flatMap String.utf8EncodeChar := by
  have encoded := String.toByteArray_ofList (l := s.toList)
  rw [String.ofList_toList] at encoded
  rw [utf8Bytes, String.toUTF8_eq_toByteArray, encoded]
  exact List.toList_data_toByteArray

theorem codePoint_lt (c : Char) : c.val.toNat < 0x110000 := by
  have valid := c.valid
  simp only [UInt32.isValidChar, Nat.isValidChar] at valid
  omega

/-- Below `0x110000`, numbers compare as their base-64 digits do, most
significant first. -/
theorem base64Digits_lex {v w : Nat} (lt : v < w) (small : w < 0x110000) :
    v / 262144 % 8 < w / 262144 % 8 ∨ v / 262144 % 8 = w / 262144 % 8 ∧
      (v / 4096 % 64 < w / 4096 % 64 ∨ v / 4096 % 64 = w / 4096 % 64 ∧
        (v / 64 % 64 < w / 64 % 64 ∨ v / 64 % 64 = w / 64 % 64 ∧ v % 64 < w % 64)) := by
  -- the leading digit is below 5, so it is its own remainder
  rw [Nat.mod_eq_of_lt (by omega : v / 262144 < 8), Nat.mod_eq_of_lt (by omega : w / 262144 < 8)]
  omega

/-- The encoding of a smaller character is smaller whatever follows either: the
two encodings differ before the shorter one ends. -/
theorem utf8EncodeChar_append_lt {c d : Char} (less : c < d) (rest rest' : List UInt8) :
    String.utf8EncodeChar c ++ rest < String.utf8EncodeChar d ++ rest' := by
  have lt : c.val.toNat < d.val.toNat := Char.lt_def.1 less
  have digits := base64Digits_lex lt (codePoint_lt d)
  -- one case per pair of encoding lengths, each a comparison of byte values
  simp only [String.utf8EncodeChar]
  split_ifs <;>
    simp (disch := omega) only [List.cons_append, List.nil_append, List.cons_lt_cons_iff,
      UInt8.lt_iff_toNat_lt, ← UInt8.toNat_inj, UInt8.toNat_ofNat', Nat.mod_eq_of_lt] <;> omega

theorem append_lt_append_left_iff {p l l' : List UInt8} : p ++ l < p ++ l' ↔ l < l' := by
  induction p with
  | nil => rfl
  | cons b p sameRest => simp [sameRest]

theorem flatMap_utf8EncodeChar_lt_iff :
    ∀ {l l' : List Char},
      l.flatMap String.utf8EncodeChar < l'.flatMap String.utf8EncodeChar ↔ l < l'
  | [], [] => by simp
  | [], d :: _ => by
    simp only [List.flatMap_nil, List.flatMap_cons, List.nil_lt_cons, iff_true]
    obtain ⟨b, bs, first⟩ := List.exists_cons_of_ne_nil (String.utf8EncodeChar_ne_nil (c := d))
    rw [first, List.cons_append]
    exact List.nil_lt_cons _ _
  | _ :: _, [] => by simp [List.not_lt_nil]
  | c :: l, d :: l' => by
    simp only [List.flatMap_cons, List.cons_lt_cons_iff]
    rcases lt_trichotomy c d with less | rfl | greater
    · simp [utf8EncodeChar_append_lt less, less]
    · simp [append_lt_append_left_iff, flatMap_utf8EncodeChar_lt_iff]
    · have notLess : ¬ c < d := lt_asymm greater
      have notSame : c ≠ d := ne_of_gt greater
      simp only [notLess, notSame, false_and, or_self, iff_false]
      exact List.lt_asymm (utf8EncodeChar_append_lt greater _ _)

/-- Texts compare by code point exactly as their UTF-8 bytes compare. -/
theorem lt_iff_utf8Bytes_lt {a b : String} : a < b ↔ utf8Bytes a < utf8Bytes b := by
  rw [String.lt_iff, utf8Bytes_eq_flatMap, utf8Bytes_eq_flatMap, flatMap_utf8EncodeChar_lt_iff]

/-! ### Sorted entries -/

namespace Bindings

/-- The entries are in strictly increasing order of name. -/
def Sorted (b : Bindings) : Prop :=
  b.entries.Pairwise fun x y => x.1 < y.1

theorem sorted_empty : empty.Sorted :=
  List.Pairwise.nil

section Insert

variable {name : String} {value : Value}

/-- In sorted entries, inserting a binding keeps every entry of another name
and adds the new one. -/
theorem mem_insertSorted_iff {entry : String × Value} :
    ∀ {entries : List (String × Value)}, entries.Pairwise (fun x y => x.1 < y.1) →
      (entry ∈ insertSorted name value entries ↔
        entry = (name, value) ∨ entry ∈ entries ∧ entry.1 ≠ name)
  | [], _ => by simp [insertSorted]
  | (key, old) :: rest, sorted => by
    have above : ∀ x ∈ rest, key < x.1 := (List.pairwise_cons.1 sorted).1
    unfold insertSorted
    split_ifs with before same
    · -- `name` is below every entry, so no entry has it
      have fresh : entry ∈ (key, old) :: rest → entry.1 ≠ name := by
        rintro (_ | ⟨_, later⟩)
        · exact ne_of_gt before
        · exact ne_of_gt (before.trans (above entry later))
      rw [List.mem_cons, and_iff_left_of_imp fresh]
    · -- the entry of `name` is replaced, and every later one is past it
      subst same
      have kept : entry ∈ (name, old) :: rest ∧ entry.1 ≠ name ↔ entry ∈ rest := by
        constructor
        · rintro ⟨member, differs⟩
          rcases List.mem_cons.1 member with rfl | later
          · exact absurd rfl differs
          · exact later
        · intro later
          exact ⟨List.mem_cons_of_mem _ later, ne_of_gt (above entry later)⟩
      rw [List.mem_cons, kept]
    · have past : key < name := lt_of_le_of_ne (not_lt.1 before) (Ne.symm same)
      simp only [List.mem_cons, mem_insertSorted_iff (List.pairwise_cons.1 sorted).2]
      constructor
      · rintro (old | new | ⟨later, differs⟩)
        · exact .inr ⟨.inl old, old ▸ ne_of_lt past⟩
        · exact .inl new
        · exact .inr ⟨.inr later, differs⟩
      · rintro (new | ⟨old | later, differs⟩)
        · exact .inr (.inl new)
        · exact .inl old
        · exact .inr (.inr ⟨later, differs⟩)

theorem pairwise_insertSorted :
    ∀ {entries : List (String × Value)}, entries.Pairwise (fun x y => x.1 < y.1) →
      (insertSorted name value entries).Pairwise (fun x y => x.1 < y.1)
  | [], _ => by simp [insertSorted]
  | (key, old) :: rest, sorted => by
    have above : ∀ x ∈ rest, key < x.1 := (List.pairwise_cons.1 sorted).1
    have restSorted := (List.pairwise_cons.1 sorted).2
    unfold insertSorted
    split_ifs with before same
    · refine List.pairwise_cons.2 ⟨?_, sorted⟩
      simp only [List.mem_cons, forall_eq_or_imp]
      exact ⟨before, fun x member => before.trans (above x member)⟩
    · subst same
      exact List.pairwise_cons.2 ⟨above, restSorted⟩
    · have past : key < name := lt_of_le_of_ne (not_lt.1 before) (Ne.symm same)
      refine List.pairwise_cons.2 ⟨fun x member => ?_, pairwise_insertSorted restSorted⟩
      rcases mem_insertSorted member with new | old
      · exact new ▸ past
      · exact above x old

end Insert

theorem Sorted.declare {b : Bindings} (sorted : b.Sorted) (name : String) (value : Value) :
    (b.declare name value).Sorted :=
  pairwise_insertSorted sorted

theorem Sorted.nodup_names {b : Bindings} (sorted : b.Sorted) :
    (b.entries.map Prod.fst).Nodup :=
  (List.pairwise_map.2 sorted).nodup

theorem Sorted.get?_eq_some_iff {b : Bindings} (sorted : b.Sorted) {name : String}
    {value : Value} : b.get? name = some value ↔ (name, value) ∈ b.entries := by
  unfold Bindings.get?
  constructor
  · intro bound
    obtain ⟨entry, found, rfl⟩ := Option.map_eq_some_iff.1 bound
    have named : entry.1 = name := by simpa using List.find?_some found
    rw [← named]
    exact List.mem_of_find?_eq_some found
  · intro member
    obtain ⟨entry, found⟩ : ∃ entry, b.entries.find? (fun x => x.1 == name) = some entry :=
      Option.isSome_iff_exists.1 (List.find?_isSome.2 ⟨_, member, beq_self_eq_true name⟩)
    have named : entry.1 = name := by simpa using List.find?_some found
    -- the names are distinct, so the entry found is the one of `name`
    have same : entry = (name, value) :=
      List.inj_on_of_nodup_map sorted.nodup_names (List.mem_of_find?_eq_some found) member named
    simp [found, same]

/-- The count is the number of names bound. -/
theorem Sorted.size_eq_ncard {b : Bindings} (sorted : b.Sorted) :
    b.size = Set.ncard {name | ∃ value, (name, value) ∈ b.entries} := by
  have names : {name | ∃ value, (name, value) ∈ b.entries} =
      ↑(b.entries.map Prod.fst).toFinset := by
    ext name
    simp
  rw [names, Set.ncard_coe_finset, List.toFinset_card_of_nodup sorted.nodup_names,
    List.length_map, size]

theorem isEmpty_iff_size_eq_zero (b : Bindings) : b.isEmpty = true ↔ b.size = 0 :=
  List.isEmpty_iff_length_eq_zero

/-! ### Replaying declarations and resets -/

/-- A change to the variables: a declaration, or a reset. -/
inductive Change
  | declare (name : String) (value : Value)
  | clear

/-- Whether a change redeclares `name` or removes it with every other name. -/
def Change.Touches (name : String) : Change → Prop
  | .declare declared _ => declared = name
  | .clear => True

/-- Make one change. -/
def perform (b : Bindings) : Change → Bindings
  | .declare name value => b.declare name value
  | .clear => b.clear

/-- The variables after a sequence of changes made from no bindings. -/
def replay (changes : List Change) : Bindings :=
  changes.foldl perform empty

/-- `value` is the value of the last declaration of `name` since the last reset. -/
def LastDeclared (changes : List Change) (name : String) (value : Value) : Prop :=
  ∃ before after, changes = before ++ .declare name value :: after ∧
    ∀ c ∈ after, ¬ c.Touches name

/-- `name` has been declared since the last reset. -/
def DeclaredSinceReset (changes : List Change) (name : String) : Prop :=
  ∃ before value after, changes = before ++ .declare name value :: after ∧ .clear ∉ after

/-- Where a change made last stands in a split of the sequence: it is the change
split at, or it ends what comes after. -/
theorem split_append_singleton {changes before after : List Change} {last split : Change}
    (splits : changes ++ [last] = before ++ split :: after) :
    after = [] ∧ last = split ∧ changes = before ∨
      ∃ middle, after = middle ++ [last] ∧ changes = before ++ split :: middle := by
  rcases List.eq_nil_or_concat after with rfl | ⟨middle, final, rfl⟩
  · obtain ⟨same, ends⟩ := List.append_inj' splits rfl
    exact .inl ⟨rfl, List.singleton_inj.1 ends, same⟩
  · rw [List.concat_eq_append] at splits ⊢
    rw [← List.cons_append, ← List.append_assoc] at splits
    obtain ⟨same, ends⟩ := List.append_inj' splits rfl
    exact .inr ⟨middle, by rw [List.singleton_inj.1 ends], same⟩

section Steps

variable {changes : List Change} {name declared : String} {value new : Value}

theorem not_lastDeclared_nil : ¬ LastDeclared [] name value := by
  rintro ⟨before, after, split, -⟩
  simp at split

theorem not_lastDeclared_clear : ¬ LastDeclared (changes ++ [.clear]) name value := by
  rintro ⟨before, after, split, untouched⟩
  rcases split_append_singleton split with ⟨-, reset, -⟩ | ⟨middle, rfl, -⟩
  · cases reset
  · exact untouched .clear (by simp) trivial

theorem lastDeclared_declare_iff :
    LastDeclared (changes ++ [.declare declared new]) name value ↔
      name = declared ∧ value = new ∨
        name ≠ declared ∧ LastDeclared changes name value := by
  constructor
  · rintro ⟨before, after, split, untouched⟩
    rcases split_append_singleton split with ⟨-, last, -⟩ | ⟨middle, rfl, earlier⟩
    · cases last
      exact .inl ⟨rfl, rfl⟩
    · have differs : declared ≠ name := untouched (.declare declared new) (by simp)
      exact .inr ⟨Ne.symm differs, before, middle, earlier,
        fun c member => untouched c (by simp [member])⟩
  · rintro (⟨rfl, rfl⟩ | ⟨differs, before, after, rfl, untouched⟩)
    · exact ⟨changes, [], rfl, by simp⟩
    · refine ⟨before, after ++ [.declare declared new], by simp, fun c member => ?_⟩
      rcases List.mem_append.1 member with old | last
      · exact untouched c old
      · rw [List.mem_singleton.1 last]
        exact Ne.symm differs

theorem not_declaredSinceReset_clear : ¬ DeclaredSinceReset (changes ++ [.clear]) name := by
  rintro ⟨before, value, after, split, noReset⟩
  rcases split_append_singleton split with ⟨-, reset, -⟩ | ⟨middle, rfl, -⟩
  · cases reset
  · exact noReset (by simp)

theorem declaredSinceReset_declare_iff :
    DeclaredSinceReset (changes ++ [.declare declared new]) name ↔
      name = declared ∨ DeclaredSinceReset changes name := by
  constructor
  · rintro ⟨before, value, after, split, noReset⟩
    rcases split_append_singleton split with ⟨-, last, -⟩ | ⟨middle, rfl, earlier⟩
    · cases last
      exact .inl rfl
    · exact .inr ⟨before, value, middle, earlier, fun member => noReset (by simp [member])⟩
  · rintro (rfl | ⟨before, value, after, rfl, noReset⟩)
    · exact ⟨changes, new, [], rfl, by simp⟩
    · exact ⟨before, value, after ++ [.declare declared new], by simp, by simp [noReset]⟩

end Steps

/-- The bindings `b` are sorted and hold, for each name declared since the last
reset, the value of its last declaration, and nothing else. -/
structure Tracks (changes : List Change) (b : Bindings) : Prop where
  sorted : b.Sorted
  mem_iff : ∀ name value, (name, value) ∈ b.entries ↔ LastDeclared changes name value

theorem tracks_nil : Tracks [] empty where
  sorted := sorted_empty
  mem_iff name value := by simp [empty, not_lastDeclared_nil]

theorem Tracks.perform {changes : List Change} {b : Bindings} (tracks : Tracks changes b) :
    ∀ c, Tracks (changes ++ [c]) (b.perform c)
  | .clear => ⟨sorted_empty, fun name value => by
      simp [Bindings.perform, clear, empty, not_lastDeclared_clear]⟩
  | .declare declared new => by
    refine ⟨tracks.sorted.declare declared new, fun name value => ?_⟩
    rw [lastDeclared_declare_iff, ← tracks.mem_iff]
    simp only [Bindings.perform, Bindings.declare, mem_insertSorted_iff tracks.sorted,
      Prod.mk.injEq]
    tauto

theorem tracks_replay : ∀ changes, Tracks changes (replay changes) := by
  intro changes
  induction changes using List.reverseRecOn with
  | nil => exact tracks_nil
  | append_singleton changes c tracks =>
    rw [replay, List.foldl_append]
    exact tracks.perform c

/-- A name has a last declaration since the last reset exactly when it has been
declared since then. -/
theorem exists_lastDeclared_iff (changes : List Change) (name : String) :
    (∃ value, LastDeclared changes name value) ↔ DeclaredSinceReset changes name := by
  induction changes using List.reverseRecOn with
  | nil => simp [not_lastDeclared_nil, DeclaredSinceReset]
  | append_singleton changes c earlier =>
    cases c with
    | clear => simp [not_lastDeclared_clear, not_declaredSinceReset_clear]
    | declare declared new =>
      simp only [lastDeclared_declare_iff, declaredSinceReset_declare_iff, ← earlier]
      by_cases same : name = declared <;> simp [same]

/-- The variables are a last-write-wins store. After any sequence of
declarations and resets, a lookup of a name gives the value of its last
declaration since the last reset, or nothing; the count is the number of names
declared since the last reset; the store is empty exactly when the count is
zero; and the listing holds each such name once with its value, in strictly
increasing byte order of the names. -/
theorem replay_last_write_wins (changes : List Change) :
    (∀ name value,
      (replay changes).get? name = some value ↔ LastDeclared changes name value) ∧
    (replay changes).size = Set.ncard {name | DeclaredSinceReset changes name} ∧
    ((replay changes).isEmpty = true ↔ (replay changes).size = 0) ∧
    (replay changes).toList.Pairwise (fun x y => utf8Bytes x.1 < utf8Bytes y.1) ∧
    (∀ name value,
      (name, value) ∈ (replay changes).toList ↔ LastDeclared changes name value) := by
  have tracks := tracks_replay changes
  refine ⟨fun name value => ?_, ?_, isEmpty_iff_size_eq_zero _, ?_, tracks.mem_iff⟩
  · rw [tracks.sorted.get?_eq_some_iff, tracks.mem_iff]
  · rw [tracks.sorted.size_eq_ncard]
    simp only [tracks.mem_iff, exists_lastDeclared_iff]
  · exact tracks.sorted.imp fun less => lt_iff_utf8Bytes_lt.1 less

end Bindings

end Reckon

import Mathlib.Data.List.Forall2
import Mathlib.Data.List.TakeWhile
import Reckon.Proofs.TopologicalSort
import Reckon.Registry

/-!
Contract: building a registry checks each set of parsers in a fixed order and reports the
first failure; a built set resolves every culture to exactly the parsers of its tag.

Owns: what the two scans over names report (`firstDuplicate?`, `firstUnknownReference?`); the
culture tags as the increasing list of the lower-cased tags that descriptors not applying
everywhere carry; the first failure of a loop along an increasing list; `ParserSet.build`,
which succeeds exactly on `WellFormed` sets and fails exactly with their `SetFailure`;
`ParserSet.resolve` against `resolvedMembers`; and the same for a whole registry, statements
first.

Does not own: the order within a partition, beyond its holding every member once.
-/

set_option autoImplicit false

namespace Reckon

/-! ## Loops in `Except` -/

section ExceptLoops

variable {ε α β : Type}

theorem bind_eq_ok_iff {x : Except ε α} {f : α → Except ε β} {b : β} :
    (x >>= f) = .ok b ↔ ∃ a, x = .ok a ∧ f a = .ok b := by
  cases x <;> simp [bind, Except.bind]

theorem bind_eq_error_iff {x : Except ε α} {f : α → Except ε β} {e : ε} :
    (x >>= f) = .error e ↔ x = .error e ∨ ∃ a, x = .ok a ∧ f a = .error e := by
  cases x <;> simp [bind, Except.bind]

theorem mapM_eq_ok_iff {f : α → Except ε β} {l : List α} {ys : List β} :
    l.mapM f = .ok ys ↔ List.Forall₂ (fun x y => f x = .ok y) l ys := by
  induction l generalizing ys with
  | nil => cases ys <;> simp [pure, Except.pure]
  | cons x rest ih =>
    rw [List.mapM_cons]
    cases head : f x with
    | error e => cases ys <;> simp [bind, Except.bind, head]
    | ok y =>
      cases tail : rest.mapM f with
      | error e => cases ys <;> simp [bind, Except.bind, ← ih, tail, head]
      | ok values => cases ys <;> simp [bind, Except.bind, pure, Except.pure, ← ih, tail, head]

theorem exists_ok_of_mapM {f : α → Except ε β} {l : List α} {ys : List β}
    (done : l.mapM f = .ok ys) : ∀ x ∈ l, ∃ y, f x = .ok y := by
  have pointwise := mapM_eq_ok_iff.1 done
  clear done
  induction pointwise with
  | nil => simp
  | cons head _ ih =>
    intro x mem
    rcases List.mem_cons.1 mem with rfl | mem
    · exact ⟨_, head⟩
    · exact ih x mem

/-- Along a list kept increasing, a loop in `Except` fails with the error of the least element
that fails, every smaller one having succeeded. -/
theorem mapM_eq_error_iff_least {l : List String} (sorted : l.Pairwise (· < ·))
    {f : String → Except ε β} {e : ε} :
    l.mapM f = .error e ↔ ∃ x ∈ l, f x = .error e ∧ ∀ y ∈ l, y < x → ∃ b, f y = .ok b := by
  induction l with
  | nil => simp [pure, Except.pure]
  | cons x rest ih =>
    rw [List.pairwise_cons] at sorted
    rw [List.mapM_cons, bind_eq_error_iff]
    cases head : f x with
    | error e' =>
      simp only [Except.error.injEq, reduceCtorEq, false_and, exists_false, or_false]
      constructor
      · rintro rfl
        refine ⟨x, List.mem_cons_self, head, fun y mem smaller => ?_⟩
        rcases List.mem_cons.1 mem with rfl | mem
        · exact absurd smaller (String.lt_irrefl y)
        · exact absurd (sorted.1 y mem) (String.lt_asymm smaller)
      · rintro ⟨z, mem, failed, least⟩
        rcases List.mem_cons.1 mem with rfl | mem
        · rw [head] at failed
          exact Except.error.inj failed
        · obtain ⟨b, ok⟩ := least x List.mem_cons_self (sorted.1 z mem)
          rw [head] at ok
          cases ok
    | ok b =>
      simp only [reduceCtorEq, false_or, Except.ok.injEq, exists_eq_left']
      rw [bind_eq_error_iff, ih sorted.2]
      simp only [pure, Except.pure, reduceCtorEq, and_false, exists_false, or_false]
      constructor
      · rintro ⟨z, mem, failed, least⟩
        refine ⟨z, List.mem_cons_of_mem x mem, failed, fun y yMem smaller => ?_⟩
        rcases List.mem_cons.1 yMem with rfl | yMem
        · exact ⟨b, head⟩
        · exact least y yMem smaller
      · rintro ⟨z, mem, failed, least⟩
        rcases List.mem_cons.1 mem with rfl | mem
        · rw [head] at failed
          cases failed
        · exact ⟨z, mem, failed, fun y yMem smaller => least y (List.mem_cons_of_mem x yMem) smaller⟩

end ExceptLoops

/-! ## Checking names -/

/-- With `seen` the names already met, the scan reports the first name that repeats one met
before it. -/
theorem firstDuplicate?_eq_some_iff {seen : List String} (seenDistinct : seen.Nodup)
    {names : List String} {name : String} :
    firstDuplicate? seen names = some name ↔
      ∃ earlier later, names = earlier ++ name :: later ∧ (earlier ++ seen).Nodup ∧
        name ∈ earlier ++ seen := by
  induction names generalizing seen with
  | nil => simp [firstDuplicate?]
  | cons first rest ih =>
    rw [firstDuplicate?]
    by_cases met : seen.contains first
    · rw [if_pos met, Option.some.injEq]
      have met : first ∈ seen := by simpa using met
      constructor
      · rintro rfl
        exact ⟨[], rest, rfl, seenDistinct, met⟩
      · rintro ⟨earlier, later, split, distinct, _⟩
        cases earlier with
        | nil => exact (List.cons.inj split).1
        | cons e earlier =>
          obtain ⟨rfl, -⟩ := List.cons.inj split
          exact absurd (List.mem_append_right earlier met) (List.nodup_cons.1 distinct).1
    · rw [if_neg met]
      have fresh : first ∉ seen := by simpa using met
      rw [ih (List.nodup_cons.2 ⟨fresh, seenDistinct⟩)]
      constructor
      · rintro ⟨earlier, later, rfl, distinct, mem⟩
        refine ⟨first :: earlier, later, rfl, ?_, ?_⟩
        · exact distinct.perm List.perm_middle
        · exact List.perm_middle.mem_iff.1 mem
      · rintro ⟨earlier, later, split, distinct, mem⟩
        cases earlier with
        | nil =>
          obtain ⟨rfl, -⟩ := List.cons.inj split
          exact absurd mem fresh
        | cons e earlier =>
          obtain ⟨rfl, rfl⟩ := List.cons.inj split
          exact ⟨earlier, later, rfl, distinct.perm List.perm_middle.symm,
            List.perm_middle.symm.mem_iff.1 mem⟩

theorem firstDuplicate?_eq_none_iff {seen : List String} (seenDistinct : seen.Nodup)
    {names : List String} : firstDuplicate? seen names = none ↔ (names ++ seen).Nodup := by
  induction names generalizing seen with
  | nil => simpa [firstDuplicate?] using seenDistinct
  | cons first rest ih =>
    rw [firstDuplicate?]
    by_cases met : seen.contains first
    · rw [if_pos met]
      have met : first ∈ seen := by simpa using met
      simp only [reduceCtorEq, false_iff, List.cons_append, List.nodup_cons, not_and]
      exact fun fresh => absurd (List.mem_append_right rest met) fresh
    · rw [if_neg met]
      have fresh : first ∉ seen := by simpa using met
      rw [ih (List.nodup_cons.2 ⟨fresh, seenDistinct⟩)]
      exact ⟨fun distinct => distinct.perm List.perm_middle,
        fun distinct => distinct.perm List.perm_middle.symm⟩

/-- The scan for an unknown reference reports the first descriptor with one, and its first
unknown name in `before` then `after` order. -/
theorem firstUnknownReference?_eq_some_iff {ρ : Type} {names : List String}
    {descriptors : List (Descriptor ρ)} {parser reference : String} :
    firstUnknownReference? names descriptors = some (parser, reference) ↔
      ∃ earlier d later, descriptors = earlier ++ d :: later ∧
        (∀ e ∈ earlier, ∀ r ∈ e.before ++ e.after, r ∈ names) ∧ parser = d.name ∧
        ∃ known rest, d.before ++ d.after = known ++ reference :: rest ∧
          (∀ r ∈ known, r ∈ names) ∧ reference ∉ names := by
  have allKnown : ∀ e : Descriptor ρ,
      ((e.before ++ e.after).find? fun r => !names.contains r).map (e.name, ·) = none ↔
        ∀ r ∈ e.before ++ e.after, r ∈ names := by
    intro e
    rw [Option.map_eq_none_iff, List.find?_eq_none]
    exact ⟨fun known r mem => by simpa using known r mem, fun known r mem => by simpa using known r mem⟩
  have firstUnknown : ∀ e : Descriptor ρ,
      ((e.before ++ e.after).find? fun r => !names.contains r).map (e.name, ·) =
          some (parser, reference) ↔
        parser = e.name ∧ ∃ known rest, e.before ++ e.after = known ++ reference :: rest ∧
          (∀ r ∈ known, r ∈ names) ∧ reference ∉ names := by
    intro e
    simp only [Option.map_eq_some_iff, Prod.mk.injEq, List.find?_eq_some_iff_append]
    constructor
    · rintro ⟨r, ⟨unknown, known, rest, split, knownMem⟩, rfl, rfl⟩
      exact ⟨rfl, known, rest, split, fun x mem => by simpa using knownMem x mem,
        by simpa using unknown⟩
    · rintro ⟨rfl, known, rest, split, knownMem, unknown⟩
      exact ⟨reference, ⟨by simpa using unknown, known, rest, split,
        fun x mem => by simpa using knownMem x mem⟩, rfl, rfl⟩
  rw [firstUnknownReference?, List.findSome?_eq_some_iff]
  simp only [allKnown, firstUnknown]
  constructor
  · rintro ⟨earlier, d, later, split, ⟨named, unknownRef⟩, earlierKnown⟩
    exact ⟨earlier, d, later, split, earlierKnown, named, unknownRef⟩
  · rintro ⟨earlier, d, later, split, earlierKnown, named, unknownRef⟩
    exact ⟨earlier, d, later, split, ⟨named, unknownRef⟩, earlierKnown⟩

theorem firstUnknownReference?_eq_none_iff {ρ : Type} {names : List String}
    {descriptors : List (Descriptor ρ)} :
    firstUnknownReference? names descriptors = none ↔
      ∀ d ∈ descriptors, ∀ r ∈ d.before ++ d.after, r ∈ names := by
  rw [firstUnknownReference?, List.findSome?_eq_none_iff]
  refine forall₂_congr fun d _ => ?_
  rw [Option.map_eq_none_iff, List.find?_eq_none]
  exact ⟨fun known r mem => by simpa using known r mem, fun known r mem => by simpa using known r mem⟩

/-! ## What the checks demand -/

variable {ρ : Type}

/-- Some descriptor that does not apply everywhere carries `tag`, once lower-cased. -/
def carriesTag (descriptors : List (Descriptor ρ)) (tag : String) : Bool :=
  descriptors.any fun d => !d.isAnyCulture && d.cultures.any (·.toLower == tag)

/-- The registered indices whose descriptor `keep` selects, in registration order. -/
def partition (descriptors : List (Descriptor ρ)) (keep : Descriptor ρ → Bool) : List Nat :=
  (List.range descriptors.length).filter fun i => descriptors[i]?.any keep

/-- Names are distinct, and every ordering reference names a registered parser. -/
structure Consistent (descriptors : List (Descriptor ρ)) : Prop where
  distinct : (descriptors.map Descriptor.name).Nodup
  known : ∀ d ∈ descriptors, ∀ reference ∈ d.before ++ d.after,
    reference ∈ descriptors.map Descriptor.name

/-- A set of descriptors that builds: it is consistent, and the partition of every tag a
descriptor carries, and that of the parsers for every culture, order without a cycle. -/
structure WellFormed (descriptors : List (Descriptor ρ)) : Prop extends Consistent descriptors where
  cultureAcyclic : ∀ tag, carriesTag descriptors tag →
    OrderingAcyclic descriptors.toArray (partition descriptors (·.appliesTo tag))
  fallbackAcyclic :
    OrderingAcyclic descriptors.toArray (partition descriptors Descriptor.isAnyCulture)

/-- How the checks of names fail. -/
inductive ValidationFailure (descriptors : List (Descriptor ρ)) : RegistryError → Prop
  /-- The first name, in registration order, that an earlier descriptor already has. -/
  | duplicate {earlier later : List String} {name : String} :
      descriptors.map Descriptor.name = earlier ++ name :: later → earlier.Nodup →
      name ∈ earlier → ValidationFailure descriptors (.duplicateParser name)
  /-- With distinct names, the first descriptor that refers to no registered parser, with its
  first such reference in `before` then `after` order. -/
  | unknown {earlier later : List (Descriptor ρ)} {d : Descriptor ρ} {known rest : List String}
      {reference : String} :
      (descriptors.map Descriptor.name).Nodup → descriptors = earlier ++ d :: later →
      (∀ e ∈ earlier, ∀ r ∈ e.before ++ e.after, r ∈ descriptors.map Descriptor.name) →
      d.before ++ d.after = known ++ reference :: rest →
      (∀ r ∈ known, r ∈ descriptors.map Descriptor.name) →
      reference ∉ descriptors.map Descriptor.name →
      ValidationFailure descriptors (.unknownParser d.name reference)

/-- The error that building a set of descriptors reports: a failed check of names, else the
cycle in the partition of the least tag that has one, else the cycle among the parsers for
every culture. -/
inductive SetFailure (descriptors : List (Descriptor ρ)) : RegistryError → Prop
  | invalid {e : RegistryError} : ValidationFailure descriptors e → SetFailure descriptors e
  | cycle {tag : String} : Consistent descriptors → carriesTag descriptors tag →
      ¬OrderingAcyclic descriptors.toArray (partition descriptors (·.appliesTo tag)) →
      (∀ t, carriesTag descriptors t → t < tag →
        OrderingAcyclic descriptors.toArray (partition descriptors (·.appliesTo t))) →
      SetFailure descriptors (.orderingCycle tag
        (cycleMemberNames descriptors.toArray (partition descriptors (·.appliesTo tag))))
  | fallbackCycle : Consistent descriptors →
      (∀ t, carriesTag descriptors t →
        OrderingAcyclic descriptors.toArray (partition descriptors (·.appliesTo t))) →
      ¬OrderingAcyclic descriptors.toArray (partition descriptors Descriptor.isAnyCulture) →
      SetFailure descriptors (.orderingCycle anyCulture
        (cycleMemberNames descriptors.toArray (partition descriptors Descriptor.isAnyCulture)))

section Validation

variable {descriptors : List (Descriptor ρ)}

theorem validateDescriptors_eq_ok_iff : validateDescriptors descriptors = .ok () ↔ Consistent descriptors := by
  rw [validateDescriptors]
  cases duplicate : firstDuplicate? [] (descriptors.map Descriptor.name) with
  | some name =>
    simp only [reduceCtorEq, false_iff]
    intro consistent
    rw [(firstDuplicate?_eq_none_iff List.nodup_nil).2 (by simpa using consistent.distinct)] at duplicate
    cases duplicate
  | none =>
    have distinct : (descriptors.map Descriptor.name).Nodup := by
      simpa using (firstDuplicate?_eq_none_iff List.nodup_nil).1 duplicate
    cases unknown : firstUnknownReference? (descriptors.map Descriptor.name) descriptors with
    | some found =>
      simp only [reduceCtorEq, false_iff]
      intro consistent
      rw [firstUnknownReference?_eq_none_iff.2 consistent.known] at unknown
      cases unknown
    | none => exact ⟨fun _ => ⟨distinct, firstUnknownReference?_eq_none_iff.1 unknown⟩, fun _ => rfl⟩

/-- A failed check of names is what the two scans report. -/
theorem ValidationFailure.found {e : RegistryError} (failure : ValidationFailure descriptors e) :
    (∃ name, firstDuplicate? [] (descriptors.map Descriptor.name) = some name ∧
        e = .duplicateParser name) ∨
      (firstDuplicate? [] (descriptors.map Descriptor.name) = none ∧
        ∃ parser reference,
          firstUnknownReference? (descriptors.map Descriptor.name) descriptors =
            some (parser, reference) ∧ e = .unknownParser parser reference) := by
  cases failure with
  | duplicate split distinct repeated =>
    exact .inl ⟨_, (firstDuplicate?_eq_some_iff List.nodup_nil).2
      ⟨_, _, split, by simpa using distinct, by simpa using repeated⟩, rfl⟩
  | unknown distinct split earlierKnown refs knownMem missing =>
    exact .inr ⟨(firstDuplicate?_eq_none_iff List.nodup_nil).2 (by simpa using distinct), _, _,
      firstUnknownReference?_eq_some_iff.2
        ⟨_, _, _, split, earlierKnown, rfl, _, _, refs, knownMem, missing⟩, rfl⟩

theorem validateDescriptors_eq_error_iff {e : RegistryError} :
    validateDescriptors descriptors = .error e ↔ ValidationFailure descriptors e := by
  constructor
  · intro failed
    rw [validateDescriptors] at failed
    cases duplicate : firstDuplicate? [] (descriptors.map Descriptor.name) with
    | some name =>
      simp only [duplicate, Except.error.injEq] at failed
      obtain ⟨earlier, later, split, distinct, repeated⟩ :=
        (firstDuplicate?_eq_some_iff List.nodup_nil).1 duplicate
      rw [← failed]
      exact .duplicate split (by simpa using distinct) (by simpa using repeated)
    | none =>
      have distinct : (descriptors.map Descriptor.name).Nodup := by
        simpa using (firstDuplicate?_eq_none_iff List.nodup_nil).1 duplicate
      cases unknown : firstUnknownReference? (descriptors.map Descriptor.name) descriptors with
      | some found =>
        simp only [duplicate, unknown, Except.error.injEq] at failed
        obtain ⟨earlier, d, later, split, earlierKnown, named, known, rest, refs, knownMem, missing⟩ :=
          firstUnknownReference?_eq_some_iff.1 unknown
        rw [← failed, named]
        exact .unknown distinct split earlierKnown refs knownMem missing
      | none =>
        simp only [duplicate, unknown, reduceCtorEq] at failed
  · intro failure
    rw [validateDescriptors]
    rcases failure.found with ⟨name, duplicate, rfl⟩ | ⟨duplicate, parser, reference, unknown, rfl⟩
    · simp only [duplicate]
    · simp only [duplicate, unknown]

theorem ValidationFailure.not_consistent {e : RegistryError}
    (failure : ValidationFailure descriptors e) : ¬Consistent descriptors := fun consistent => by
  have valid := validateDescriptors_eq_ok_iff.2 consistent
  rw [validateDescriptors_eq_error_iff.2 failure] at valid
  cases valid

end Validation

/-! ## The culture tags -/

theorem mem_insertTag {tag t : String} {tags : List String} :
    t ∈ insertTag tag tags ↔ t = tag ∨ t ∈ tags := by
  induction tags with
  | nil => simp [insertTag]
  | cons first rest ih =>
    rw [insertTag]
    split
    · simp
    · split
      · next same => simp [same]
      · simp only [List.mem_cons, ih]
        tauto

theorem pairwise_insertTag {tag : String} {tags : List String} (sorted : tags.Pairwise (· < ·)) :
    (insertTag tag tags).Pairwise (· < ·) := by
  induction tags with
  | nil => simp [insertTag]
  | cons first rest ih =>
    rw [List.pairwise_cons] at sorted
    rw [insertTag]
    split
    · next below =>
      refine List.pairwise_cons.2 ⟨fun t mem => ?_, List.pairwise_cons.2 sorted⟩
      rcases List.mem_cons.1 mem with rfl | mem
      · exact below
      · exact String.lt_trans below (sorted.1 t mem)
    · split
      · exact List.pairwise_cons.2 sorted
      · next notBelow notSame =>
        -- the tag comes after `first`, so it goes into the rest
        have above : first < tag := by
          rcases Std.lt_trichotomy tag first with below | same | above
          · exact absurd below notBelow
          · exact absurd same notSame
          · exact above
        refine List.pairwise_cons.2 ⟨fun t mem => ?_, ih sorted.2⟩
        rcases mem_insertTag.1 mem with rfl | mem
        · exact above
        · exact sorted.1 t mem

section Tags

variable {descriptors : List (Descriptor ρ)}

theorem carriesTag_iff {tag : String} :
    carriesTag descriptors tag = true ↔
      ∃ d ∈ descriptors, d.isAnyCulture = false ∧ ∃ c ∈ d.cultures, c.toLower = tag := by
  simp [carriesTag]

theorem mem_cultureTags {tag : String} :
    tag ∈ cultureTags descriptors ↔ carriesTag descriptors tag = true := by
  have inner : ∀ (cultures : List String) (acc : List String),
      tag ∈ cultures.foldl (fun acc c => insertTag c.toLower acc) acc ↔
        tag ∈ acc ∨ ∃ c ∈ cultures, c.toLower = tag := by
    intro cultures
    induction cultures with
    | nil => simp
    | cons c rest ih =>
      intro acc
      rw [List.foldl_cons, ih, mem_insertTag]
      simp only [List.mem_cons, exists_eq_or_imp]
      tauto
  have outer : ∀ (ds : List (Descriptor ρ)) (acc : List String),
      tag ∈ ds.foldl (fun acc d => if d.isAnyCulture then acc else
          d.cultures.foldl (fun acc c => insertTag c.toLower acc) acc) acc ↔
        tag ∈ acc ∨ ∃ d ∈ ds, d.isAnyCulture = false ∧ ∃ c ∈ d.cultures, c.toLower = tag := by
    intro ds
    induction ds with
    | nil => simp
    | cons d rest ih =>
      intro acc
      rw [List.foldl_cons, ih]
      by_cases everywhere : d.isAnyCulture
      · simp [everywhere]
      · rw [if_neg everywhere, inner]
        simp only [List.mem_cons, exists_eq_or_imp, everywhere, true_and]
        exact or_assoc
  rw [cultureTags, outer, carriesTag_iff]
  simp

theorem cultureTags_sorted : (cultureTags descriptors).Pairwise (· < ·) := by
  have inner : ∀ (cultures : List String) (acc : List String), acc.Pairwise (· < ·) →
      (cultures.foldl (fun acc c => insertTag c.toLower acc) acc).Pairwise (· < ·) := by
    intro cultures
    induction cultures with
    | nil => exact fun _ sorted => sorted
    | cons c rest ih => exact fun acc sorted => ih _ (pairwise_insertTag sorted)
  have outer : ∀ (ds : List (Descriptor ρ)) (acc : List String), acc.Pairwise (· < ·) →
      (ds.foldl (fun acc d => if d.isAnyCulture then acc else
          d.cultures.foldl (fun acc c => insertTag c.toLower acc) acc) acc).Pairwise (· < ·) := by
    intro ds
    induction ds with
    | nil => exact fun _ sorted => sorted
    | cons d rest ih =>
      intro acc sorted
      rw [List.foldl_cons]
      refine ih _ ?_
      split
      · exact sorted
      · exact inner _ _ sorted
  exact outer descriptors [] List.Pairwise.nil

end Tags

/-! ## Partitions and their sorts -/

section Partitions

variable {descriptors : List (Descriptor ρ)}

theorem membersWhere_eq_partition (keep : Descriptor ρ → Bool) :
    (List.range descriptors.length).filter
        (fun index => (descriptors.toArray[index]?.map keep).getD false) =
      partition descriptors keep := by
  rw [partition]
  refine List.filter_congr fun i _ => ?_
  rw [List.getElem?_toArray]
  cases descriptors[i]? <;> rfl

theorem partition_nodup (keep : Descriptor ρ → Bool) : (partition descriptors keep).Nodup :=
  List.nodup_range.filter _

theorem partition_lt (keep : Descriptor ρ → Bool) :
    ∀ i ∈ partition descriptors keep, i < descriptors.toArray.size := fun i mem => by
  simpa using List.mem_range.1 (List.mem_filter.1 mem).1

theorem sort_partition_ok_iff (consistent : Consistent descriptors) (culture : String)
    (keep : Descriptor ρ → Bool) :
    (∃ order, stableTopologicalSort culture descriptors.toArray (partition descriptors keep) =
        .ok order) ↔ OrderingAcyclic descriptors.toArray (partition descriptors keep) :=
  stableTopologicalSort_ok_iff culture (by simpa using consistent.distinct) (partition_nodup keep)
    (partition_lt keep)

theorem sort_partition_eq_error_iff (consistent : Consistent descriptors) (culture : String)
    (keep : Descriptor ρ → Bool) {e : RegistryError} :
    stableTopologicalSort culture descriptors.toArray (partition descriptors keep) = .error e ↔
      ¬OrderingAcyclic descriptors.toArray (partition descriptors keep) ∧
        e = .orderingCycle culture
          (cycleMemberNames descriptors.toArray (partition descriptors keep)) :=
  stableTopologicalSort_eq_error_iff culture (by simpa using consistent.distinct)
    (partition_nodup keep) (partition_lt keep)

end Partitions

/-! ## Building a set of parsers -/

/-- The sorted partition of one culture tag, with the tag. -/
def taggedPartition (descriptors : List (Descriptor ρ)) (tag : String) :
    Except RegistryError (String × List Nat) := do
  let order ← stableTopologicalSort tag descriptors.toArray
    (partition descriptors (·.appliesTo tag))
  pure (tag, order)

/-- The sorted partition of every culture tag, as a build computes them. -/
def sortedPartitions (descriptors : List (Descriptor ρ)) :
    Except RegistryError (List (String × List Nat)) :=
  (cultureTags descriptors).mapM (taggedPartition descriptors)

/-- The sorted partition of the parsers for every culture. -/
def sortedFallback (descriptors : List (Descriptor ρ)) : Except RegistryError (List Nat) :=
  stableTopologicalSort anyCulture descriptors.toArray (partition descriptors Descriptor.isAnyCulture)

theorem ParserSet.build_eq (descriptors : List (Descriptor ρ)) :
    ParserSet.build descriptors =
      (validateDescriptors descriptors >>= fun _ => sortedPartitions descriptors >>= fun partitions =>
        sortedFallback descriptors >>= fun fallback =>
          pure { parsers := descriptors.toArray, partitions, fallback }) := by
  rw [ParserSet.build]
  simp only [membersWhere_eq_partition]
  rfl

section Build

variable {descriptors : List (Descriptor ρ)}

theorem taggedPartition_eq_error_iff {tag : String} {e : RegistryError} :
    taggedPartition descriptors tag = .error e ↔
      stableTopologicalSort tag descriptors.toArray (partition descriptors (·.appliesTo tag)) =
        .error e := by
  rw [taggedPartition, bind_eq_error_iff]
  simp [pure, Except.pure]

theorem taggedPartition_eq_ok_iff {tag : String} {entry : String × List Nat} :
    taggedPartition descriptors tag = .ok entry ↔ entry.1 = tag ∧
      stableTopologicalSort tag descriptors.toArray (partition descriptors (·.appliesTo tag)) =
        .ok entry.2 := by
  rw [taggedPartition, bind_eq_ok_iff]
  obtain ⟨t, order⟩ := entry
  simp only [pure, Except.pure, Except.ok.injEq, Prod.mk.injEq]
  constructor
  · rintro ⟨o, sorted, rfl, rfl⟩
    exact ⟨rfl, sorted⟩
  · rintro ⟨rfl, sorted⟩
    exact ⟨order, sorted, rfl, rfl⟩

/-- **The culture partitions fail at the least tag whose partition has a cycle.** -/
theorem sortedPartitions_eq_error_iff (consistent : Consistent descriptors) {e : RegistryError} :
    sortedPartitions descriptors = .error e ↔
      ∃ tag, carriesTag descriptors tag ∧
        ¬OrderingAcyclic descriptors.toArray (partition descriptors (·.appliesTo tag)) ∧
        (∀ t, carriesTag descriptors t → t < tag →
          OrderingAcyclic descriptors.toArray (partition descriptors (·.appliesTo t))) ∧
        e = .orderingCycle tag
          (cycleMemberNames descriptors.toArray (partition descriptors (·.appliesTo tag))) := by
  have succeeds : ∀ t, (∃ entry, taggedPartition descriptors t = .ok entry) ↔
      OrderingAcyclic descriptors.toArray (partition descriptors (·.appliesTo t)) := by
    intro t
    rw [← sort_partition_ok_iff consistent t]
    simp only [taggedPartition_eq_ok_iff]
    exact ⟨fun ⟨entry, _, sorted⟩ => ⟨_, sorted⟩, fun ⟨order, sorted⟩ => ⟨(t, order), rfl, sorted⟩⟩
  rw [sortedPartitions, mapM_eq_error_iff_least cultureTags_sorted]
  simp only [mem_cultureTags, taggedPartition_eq_error_iff, sort_partition_eq_error_iff consistent,
    succeeds]
  constructor
  · rintro ⟨tag, carried, ⟨cyclic, rfl⟩, least⟩
    exact ⟨tag, carried, cyclic, least, rfl⟩
  · rintro ⟨tag, carried, cyclic, least, rfl⟩
    exact ⟨tag, carried, ⟨cyclic, rfl⟩, least⟩

theorem sortedPartitions_ok_iff (consistent : Consistent descriptors) :
    (∃ partitions, sortedPartitions descriptors = .ok partitions) ↔
      ∀ t, carriesTag descriptors t →
        OrderingAcyclic descriptors.toArray (partition descriptors (·.appliesTo t)) := by
  constructor
  · rintro ⟨partitions, done⟩ t carried
    obtain ⟨entry, tagged⟩ := exists_ok_of_mapM done t (mem_cultureTags.2 carried)
    exact (sort_partition_ok_iff consistent t _).1 ⟨_, (taggedPartition_eq_ok_iff.1 tagged).2⟩
  · intro acyclic
    cases sorted : sortedPartitions descriptors with
    | ok partitions => exact ⟨partitions, rfl⟩
    | error e =>
      obtain ⟨tag, carried, cyclic, _⟩ := (sortedPartitions_eq_error_iff consistent).1 sorted
      exact absurd (acyclic tag carried) cyclic

/-- A sorted list of tagged partitions is looked up by its tags. -/
theorem lookup_of_forall₂ {P : String → List Nat → Prop} {tags : List String}
    {entries : List (String × List Nat)}
    (tagged : List.Forall₂ (fun tag entry => entry.1 = tag ∧ P tag entry.2) tags entries)
    (t : String) :
    (entries.lookup t = none ↔ t ∉ tags) ∧ ∀ order, entries.lookup t = some order → P t order := by
  induction tagged with
  | nil => simp
  | @cons tag entry tags entries head _ ih =>
    obtain ⟨tag', order⟩ := entry
    obtain ⟨same, holds⟩ := head
    dsimp only at same holds
    subst same
    rw [List.lookup_cons]
    by_cases found : t = tag'
    · subst found
      simp only [beq_self_eq_true, List.mem_cons, true_or, not_true_eq_false, reduceCtorEq,
        Option.some.injEq]
      exact ⟨trivial, fun order' found => found ▸ holds⟩
    · have differ : (t == tag') = false := by simpa using found
      simp only [differ, List.mem_cons, found, false_or]
      exact ih

theorem lookup_sortedPartitions {partitions : List (String × List Nat)}
    (done : sortedPartitions descriptors = .ok partitions) (t : String) :
    (partitions.lookup t = none ↔ carriesTag descriptors t = false) ∧
      ∀ order, partitions.lookup t = some order →
        stableTopologicalSort t descriptors.toArray (partition descriptors (·.appliesTo t)) =
          .ok order := by
  have tagged := mapM_eq_ok_iff.1 done
  simp only [taggedPartition_eq_ok_iff] at tagged
  obtain ⟨absent, found⟩ := lookup_of_forall₂ (P := fun tag order =>
      stableTopologicalSort tag descriptors.toArray (partition descriptors (·.appliesTo tag)) =
        .ok order) (tagged.imp fun _ _ h => ⟨h.1, h.1 ▸ h.2⟩) t
  refine ⟨?_, found⟩
  rw [absent, mem_cultureTags]
  simp

theorem ParserSet.build_eq_ok_iff {set : ParserSet ρ} :
    ParserSet.build descriptors = .ok set ↔ Consistent descriptors ∧
      ∃ partitions fallback, sortedPartitions descriptors = .ok partitions ∧
        sortedFallback descriptors = .ok fallback ∧
        set = { parsers := descriptors.toArray, partitions, fallback } := by
  rw [ParserSet.build_eq, bind_eq_ok_iff, ← validateDescriptors_eq_ok_iff]
  simp only [bind_eq_ok_iff, pure, Except.pure, Except.ok.injEq]
  constructor
  · rintro ⟨⟨⟩, valid, partitions, sorted, fallback, sortedAny, rfl⟩
    exact ⟨valid, partitions, fallback, sorted, sortedAny, rfl⟩
  · rintro ⟨valid, partitions, fallback, sorted, sortedAny, rfl⟩
    exact ⟨(), valid, partitions, sorted, fallback, sortedAny, rfl⟩

/-- **A set of parsers builds exactly when it is well formed.** -/
theorem ParserSet.build_ok_iff :
    (∃ set, ParserSet.build descriptors = .ok set) ↔ WellFormed descriptors := by
  simp only [ParserSet.build_eq_ok_iff]
  constructor
  · rintro ⟨set, consistent, partitions, fallback, sorted, sortedAny, _⟩
    exact ⟨consistent, (sortedPartitions_ok_iff consistent).1 ⟨partitions, sorted⟩,
      (sort_partition_ok_iff consistent anyCulture _).1 ⟨fallback, sortedAny⟩⟩
  · intro wellFormed
    obtain ⟨partitions, sorted⟩ :=
      (sortedPartitions_ok_iff wellFormed.toConsistent).2 wellFormed.cultureAcyclic
    obtain ⟨fallback, sortedAny⟩ :=
      (sort_partition_ok_iff wellFormed.toConsistent anyCulture _).2 wellFormed.fallbackAcyclic
    exact ⟨_, wellFormed.toConsistent, partitions, fallback, sorted, sortedAny, rfl⟩

/-- **Building a set of parsers fails with exactly its first failure.** -/
theorem ParserSet.build_eq_error_iff {e : RegistryError} :
    ParserSet.build descriptors = .error e ↔ SetFailure descriptors e := by
  rw [ParserSet.build_eq, bind_eq_error_iff]
  cases valid : validateDescriptors descriptors with
  | error invalid =>
    have failure := validateDescriptors_eq_error_iff.1 valid
    simp only [Except.error.injEq, reduceCtorEq, false_and, exists_false, or_false]
    constructor
    · rintro rfl
      exact .invalid failure
    · rintro (failure' | ⟨consistent, _⟩ | ⟨consistent, _⟩)
      · exact Except.error.inj (valid.symm.trans (validateDescriptors_eq_error_iff.2 failure'))
      · exact absurd consistent failure.not_consistent
      · exact absurd consistent failure.not_consistent
  | ok u =>
    have consistent := validateDescriptors_eq_ok_iff.1 valid
    simp only [reduceCtorEq, false_or, true_and, exists_const]
    rw [bind_eq_error_iff]
    cases sorted : sortedPartitions descriptors with
    | error cycle =>
      obtain ⟨tag, carried, cyclic, least, rfl⟩ :=
        (sortedPartitions_eq_error_iff consistent).1 sorted
      simp only [Except.error.injEq, reduceCtorEq, false_and, exists_false, or_false]
      constructor
      · rintro rfl
        exact .cycle consistent carried cyclic least
      · rintro (failure | ⟨_, carried', cyclic', least'⟩ | ⟨_, acyclic, _⟩)
        · exact absurd consistent failure.not_consistent
        · rw [(sortedPartitions_eq_error_iff consistent).2 ⟨_, carried', cyclic', least', rfl⟩]
            at sorted
          exact (Except.error.inj sorted).symm
        · exact absurd (acyclic tag carried) cyclic
    | ok partitions =>
      have acyclic := (sortedPartitions_ok_iff consistent).1 ⟨partitions, sorted⟩
      simp only [reduceCtorEq, false_or, Except.ok.injEq, exists_eq_left']
      rw [bind_eq_error_iff]
      cases sortedAny : sortedFallback descriptors with
      | error cycle =>
        obtain ⟨cyclic, rfl⟩ := (sort_partition_eq_error_iff consistent anyCulture _).1 sortedAny
        simp only [Except.error.injEq, reduceCtorEq, false_and, exists_false, or_false]
        constructor
        · rintro rfl
          exact .fallbackCycle consistent acyclic cyclic
        · rintro (failure | ⟨_, carried, cyclic', _⟩ | ⟨_, _, _⟩)
          · exact absurd consistent failure.not_consistent
          · exact absurd (acyclic _ carried) cyclic'
          · rfl
      | ok fallback =>
        simp only [reduceCtorEq, false_or, Except.ok.injEq, exists_eq_left', pure, Except.pure,
          false_iff]
        rintro (failure | ⟨_, carried, cyclic, _⟩ | ⟨_, _, cyclic⟩)
        · exact absurd consistent failure.not_consistent
        · exact absurd (acyclic _ carried) cyclic
        · exact cyclic ((sort_partition_ok_iff consistent anyCulture _).1 ⟨fallback, sortedAny⟩)

end Build

/-! ## Resolving a culture -/

/-- The tag a culture resolves to, if any: the culture in lower case when a descriptor carries
it, else its language (the part before the first `-` or `_`) when a descriptor carries that. -/
def resolvedTag (descriptors : List (Descriptor ρ)) (culture : String) : Option String :=
  let lower := culture.toLower
  let language := String.ofList (lower.toList.takeWhile fun c => !(c == '-' || c == '_'))
  if carriesTag descriptors lower then some lower
  else if carriesTag descriptors language then some language
  else none

/-- The parsers a culture resolves to, as indices in registration order: those for every
culture, and those that carry the resolved tag ignoring letter case. -/
def resolvedMembers (descriptors : List (Descriptor ρ)) (culture : String) : List Nat :=
  partition descriptors fun d =>
    d.isAnyCulture || (resolvedTag descriptors culture).any fun t => d.cultures.any (sameTag · t)

section Resolve

variable {descriptors : List (Descriptor ρ)}

theorem resolvedTag_of_carried {culture : String}
    (carried : carriesTag descriptors culture.toLower) :
    resolvedTag descriptors culture = some culture.toLower := by
  rw [resolvedTag]
  rw [if_pos carried]

theorem resolvedTag_of_language {culture : String}
    (absent : carriesTag descriptors culture.toLower = false)
    (carried : carriesTag descriptors
      (String.ofList (culture.toLower.toList.takeWhile fun c => !(c == '-' || c == '_')))) :
    resolvedTag descriptors culture =
      some (String.ofList (culture.toLower.toList.takeWhile fun c => !(c == '-' || c == '_'))) := by
  rw [resolvedTag]
  rw [if_neg (by rw [absent]; decide), if_pos carried]

theorem resolvedTag_of_absent {culture : String}
    (absent : carriesTag descriptors culture.toLower = false)
    (languageAbsent : carriesTag descriptors
      (String.ofList (culture.toLower.toList.takeWhile fun c => !(c == '-' || c == '_'))) = false) :
    resolvedTag descriptors culture = none := by
  rw [resolvedTag]
  rw [if_neg (by rw [absent]; decide), if_neg (by rw [languageAbsent]; decide)]

theorem resolvedMembers_of_some {culture tag : String}
    (resolved : resolvedTag descriptors culture = some tag) :
    resolvedMembers descriptors culture = partition descriptors (·.appliesTo tag) := by
  rw [resolvedMembers, resolved]
  rfl

theorem resolvedMembers_of_none {culture : String} (resolved : resolvedTag descriptors culture = none) :
    resolvedMembers descriptors culture = partition descriptors Descriptor.isAnyCulture := by
  rw [resolvedMembers, resolved]
  simp only [Option.any_none, Bool.or_false]

/-- **A built set resolves a culture to exactly the parsers of its tag**, each once. -/
theorem ParserSet.resolve_perm {set : ParserSet ρ} (built : ParserSet.build descriptors = .ok set)
    (culture : String) : (set.resolve culture).Perm (resolvedMembers descriptors culture) := by
  obtain ⟨consistent, partitions, fallback, sorted, sortedAny, rfl⟩ :=
    ParserSet.build_eq_ok_iff.1 built
  have lookups := lookup_sortedPartitions sorted
  -- a tag that is looked up resolves to its own sorted partition
  have found : ∀ {t order}, partitions.lookup t = some order →
      carriesTag descriptors t ∧ order.Perm (partition descriptors (·.appliesTo t)) := by
    intro t order found
    refine ⟨?_, stableTopologicalSort_perm t ((lookups t).2 order found)⟩
    by_contra absent
    rw [(lookups t).1.2 (by simpa using absent)] at found
    cases found
  have everywhere : fallback.Perm (partition descriptors Descriptor.isAnyCulture) :=
    stableTopologicalSort_perm anyCulture sortedAny
  rw [ParserSet.resolve]
  dsimp only
  cases looked : partitions.lookup culture.toLower with
  | some order =>
    obtain ⟨carried, perm⟩ := found looked
    rw [resolvedMembers_of_some (resolvedTag_of_carried carried)]
    exact perm
  | none =>
    have notCarried := (lookups _).1.1 looked
    cases languageLooked : partitions.lookup
        (String.ofList (culture.toLower.toList.takeWhile fun c => !(c == '-' || c == '_'))) with
    | some order =>
      dsimp only
      obtain ⟨carried, perm⟩ := found languageLooked
      -- without a separator the language is the whole culture, which nothing carries
      have separated : (culture.toLower.toList.any fun c => c == '-' || c == '_') = true := by
        by_contra whole
        have every : ∀ c ∈ culture.toLower.toList, (!(c == '-' || c == '_')) = true := by
          intro c mem
          by_contra separator
          refine whole (List.any_eq_true.2 ⟨c, mem, ?_⟩)
          revert separator
          cases (c == '-' || c == '_') <;> simp
        rw [List.takeWhile_eq_self_iff.2 every, String.ofList_toList, notCarried] at carried
        cases carried
      rw [if_pos separated, Option.getD_some,
        resolvedMembers_of_some (resolvedTag_of_language notCarried carried)]
      exact perm
    | none =>
      dsimp only
      have languageNotCarried := (lookups _).1.1 languageLooked
      rw [resolvedMembers_of_none (resolvedTag_of_absent notCarried languageNotCarried)]
      split
      · rw [Option.getD_none]
        exact everywhere
      · exact everywhere

end Resolve

/-! ## Building a registry -/

theorem RegistryBuilder.build_eq_ok_iff {builder : RegistryBuilder} {registry : Registry} :
    builder.build = .ok registry ↔
      ParserSet.build builder.statements = .ok registry.statements ∧
        ParserSet.build builder.expressions = .ok registry.expressions := by
  rw [RegistryBuilder.build, bind_eq_ok_iff]
  simp only [bind_eq_ok_iff, pure, Except.pure, Except.ok.injEq]
  constructor
  · rintro ⟨statements, built, expressions, built', rfl⟩
    exact ⟨built, built'⟩
  · rintro ⟨built, built'⟩
    exact ⟨_, built, _, built', rfl⟩

theorem RegistryBuilder.build_eq_error_iff {builder : RegistryBuilder} {e : RegistryError} :
    builder.build = .error e ↔
      ParserSet.build builder.statements = .error e ∨
        (∃ statements, ParserSet.build builder.statements = .ok statements) ∧
          ParserSet.build builder.expressions = .error e := by
  rw [RegistryBuilder.build, bind_eq_error_iff]
  simp only [bind_eq_error_iff, pure, Except.pure, reduceCtorEq, and_false, exists_false, or_false]
  constructor
  · rintro (failed | ⟨statements, built, failed⟩)
    · exact .inl failed
    · exact .inr ⟨⟨statements, built⟩, failed⟩
  · rintro (failed | ⟨⟨statements, built⟩, failed⟩)
    · exact .inl failed
    · exact .inr ⟨statements, built, failed⟩

/-- **Registry build and culture resolution.** A registry builds exactly when both sets of
parsers are well formed; otherwise it fails with the first failure of the statements, else
the first failure of the expressions. A built registry resolves every culture, in both sets,
to exactly the parsers for every culture and those carrying the culture's resolved tag. -/
theorem registry_build_reports_first_failure_or_resolves_by_tag (builder : RegistryBuilder) :
    ((∃ registry, builder.build = .ok registry) ↔
        WellFormed builder.statements ∧ WellFormed builder.expressions) ∧
      (∀ e, builder.build = .error e ↔ SetFailure builder.statements e ∨
        WellFormed builder.statements ∧ SetFailure builder.expressions e) ∧
      ∀ registry, builder.build = .ok registry → ∀ culture,
        (registry.statements.resolve culture).Perm (resolvedMembers builder.statements culture) ∧
          (registry.expressions.resolve culture).Perm
            (resolvedMembers builder.expressions culture) := by
  refine ⟨?_, fun e => ?_, fun registry built culture => ?_⟩
  · rw [← ParserSet.build_ok_iff, ← ParserSet.build_ok_iff]
    simp only [RegistryBuilder.build_eq_ok_iff]
    constructor
    · rintro ⟨registry, statements, expressions⟩
      exact ⟨⟨_, statements⟩, ⟨_, expressions⟩⟩
    · rintro ⟨⟨statements, built⟩, ⟨expressions, built'⟩⟩
      exact ⟨⟨statements, expressions⟩, built, built'⟩
  · rw [RegistryBuilder.build_eq_error_iff, ParserSet.build_eq_error_iff,
      ParserSet.build_eq_error_iff, ParserSet.build_ok_iff]
  · obtain ⟨statements, expressions⟩ := RegistryBuilder.build_eq_ok_iff.1 built
    exact ⟨ParserSet.resolve_perm statements culture, ParserSet.resolve_perm expressions culture⟩

end Reckon

import Mathlib.Data.List.Lex
import Mathlib.Data.List.Sort
import Reckon.Proofs.TopologicalSort

/-!
Contract: among all the orders of the members that put the source of every constraint before
its target, the stable topological sort returns the lexicographically least, and with no
constraints the members in registration order; when it fails, it names, each once and in
registration order, the members on a cycle of the constraints or after one.

Owns: `RespectsEdges` and `PicksLeastReady`; the exchange argument that makes an order which
always takes the least ready candidate the least of all orders that respect the edges
(`PicksLeastReady.eq_or_lex`); that Kahn's algorithm with its ready list in increasing order
takes so (`KahnState.Invariant.run_picksLeastReady`); and the translation of both from the
positions the sort works on to the member indices it returns.

Does not own: the invariant of Kahn's algorithm and when the sort succeeds
(`Reckon.Proofs.TopologicalSort`).

## Why the exchange argument is the crux

The sort makes a greedy choice at every round, and the statement is about every other valid
order. Two orders agree up to a first difference; there the other order's entry has all its
predecessors already placed, so it was ready when the sort chose, and the sort chose something
smaller. No search over orders is needed, and no acyclicity either: the argument only reads
the two orders.
-/

set_option autoImplicit false

open Relation

namespace Reckon

/-! ## Orders that respect edges -/

/-- `order` puts `a` before `b` for every edge `a → b` of `R`. -/
def RespectsEdges (R : Nat → Nat → Prop) (order : List Nat) : Prop :=
  ∀ a b, R a b → [a, b].Sublist order

/-- Each entry of `order` is at most every candidate that is not placed before it and whose
`R`-predecessors all are: the order always takes the least ready candidate. -/
def PicksLeastReady (R : Nat → Nat → Prop) (candidate : Nat → Prop) (order : List Nat) :
    Prop :=
  ∀ placed next rest, order = placed ++ next :: rest →
    ∀ q, candidate q → q ∉ placed → (∀ u, R u q → u ∈ placed) → next ≤ q

/-- In an order without repeats, whatever comes before `b` stands before `b`'s own place. -/
theorem mem_placed_of_pair_sublist {u b : Nat} {placed rest : List Nat}
    (distinct : (placed ++ b :: rest).Nodup) (before : [u, b].Sublist (placed ++ b :: rest)) :
    u ∈ placed := by
  obtain ⟨notPlaced, notLater⟩ : b ∉ placed ∧ b ∉ rest := by
    rw [List.nodup_append] at distinct
    exact ⟨fun mem => distinct.2.2 b mem b List.mem_cons_self rfl,
      (List.nodup_cons.1 distinct.2.1).1⟩
  obtain ⟨front, back, split, frontSub, backSub⟩ := List.sublist_append_iff.1 before
  match front, back, split with
  | [], _, rfl =>
    -- `b` would occur again after the head of `b :: rest`
    rcases List.sublist_cons_iff.1 backSub with inRest | ⟨r, same, sub⟩
    · exact absurd (inRest.subset (by simp)) notLater
    · cases same
      exact absurd (sub.subset (by simp)) notLater
  | [x], _, split =>
    cases split
    exact frontSub.subset (by simp)
  | [x, y], _, split =>
    cases split
    exact absurd (frontSub.subset (by simp)) notPlaced
  | _ :: _ :: _ :: _, _, split => simp at split

theorem pair_sublist_of_idxOf_lt {l : List Nat} {a b : Nat} (memA : a ∈ l) (memB : b ∈ l)
    (before : l.idxOf a < l.idxOf b) : [a, b].Sublist l := by
  have aInside := List.idxOf_lt_length_iff.2 memA
  have bInside := List.idxOf_lt_length_iff.2 memB
  have inFront : a ∈ l.take (l.idxOf b) :=
    List.mem_take_iff_getElem.2 ⟨l.idxOf a, by simp [aInside, before], List.getElem_idxOf aInside⟩
  have inBack : b ∈ l.drop (l.idxOf b) :=
    List.mem_drop_iff_getElem.2 ⟨0, by simpa using bInside, by simp [List.getElem_idxOf bInside]⟩
  rw [← List.take_append_drop (l.idxOf b) l]
  exact List.sublist_append_iff.2 ⟨[a], [b], rfl, List.singleton_sublist.2 inFront,
    List.singleton_sublist.2 inBack⟩

section Exchange

variable {R : Nat → Nat → Prop} {candidate : Nat → Prop} {order : List Nat}

/-- The exchange argument, from a common prefix on: where the two orders first differ, the
other order's entry was ready, so the greedy entry is smaller. -/
theorem PicksLeastReady.eq_or_lex_after (greedy : PicksLeastReady R candidate order)
    {other : List Nat} (candidates : ∀ q ∈ other, candidate q) (distinct : other.Nodup)
    (respects : RespectsEdges R other) :
    ∀ (rest placed rest' : List Nat), order = placed ++ rest → other = placed ++ rest' →
      rest.length = rest'.length → rest = rest' ∨ List.Lex (· < ·) rest rest'
  | [], _, rest', _, _, sameLength => .inl (List.eq_nil_of_length_eq_zero sameLength.symm).symm
  | next :: rest, placed, rest', orderEq, otherEq, sameLength => by
    obtain ⟨b, rest', rfl⟩ := List.exists_cons_of_length_eq_add_one sameLength.symm
    by_cases same : next = b
    · subst same
      have later := greedy.eq_or_lex_after candidates distinct respects rest (placed ++ [next])
        rest' (by simp [orderEq]) (by simp [otherEq]) (by simpa using sameLength)
      rcases later with equal | lex
      · exact .inl (equal ▸ rfl)
      · exact .inr (.cons lex)
    · -- `b` is a candidate not yet placed whose predecessors all come before it in `other`
      subst otherEq
      have fresh : b ∉ placed := fun mem =>
        (List.nodup_append.1 distinct).2.2 b mem b List.mem_cons_self rfl
      have ready : ∀ u, R u b → u ∈ placed := fun u edge =>
        mem_placed_of_pair_sublist distinct (respects u b edge)
      have atMost := greedy placed next rest orderEq b (candidates b (by simp)) fresh ready
      exact .inr (.rel (Nat.lt_of_le_of_ne atMost same))

/-- **An order that always takes the least ready candidate is the lexicographically least of
all orders of as many candidates that respect the edges.** -/
theorem PicksLeastReady.eq_or_lex (greedy : PicksLeastReady R candidate order)
    {other : List Nat} (candidates : ∀ q ∈ other, candidate q) (distinct : other.Nodup)
    (respects : RespectsEdges R other) (sameLength : order.length = other.length) :
    order = other ∨ List.Lex (· < ·) order other :=
  greedy.eq_or_lex_after candidates distinct respects order [] other rfl rfl sameLength

/-- Two orders of the same candidates that both respect the edges and both take the least
ready candidate are the same order. -/
theorem PicksLeastReady.unique (greedy : PicksLeastReady R candidate order) {other : List Nat}
    (greedy' : PicksLeastReady R candidate other) (candidates : ∀ q ∈ order, candidate q)
    (candidates' : ∀ q ∈ other, candidate q) (distinct : order.Nodup) (distinct' : other.Nodup)
    (respects : RespectsEdges R order) (respects' : RespectsEdges R other)
    (sameLength : order.length = other.length) : order = other := by
  rcases greedy.eq_or_lex candidates' distinct' respects' sameLength with same | below
  · exact same
  rcases greedy'.eq_or_lex candidates distinct respects sameLength.symm with same | above
  · exact same.symm
  have loop : List.Lex (· < ·) order order :=
    List.lex_trans (fun first second => Nat.lt_trans first second) below above
  exact absurd loop (List.lex_irrefl (fun x => Nat.lt_irrefl x) order)

end Exchange

/-- A list in increasing order takes the least candidate among its own entries, whatever the
edges. -/
theorem picksLeastReady_of_increasing {R : Nat → Nat → Prop} {l : List Nat}
    (increasing : l.Pairwise (· < ·)) : PicksLeastReady R (· ∈ l) l := by
  intro placed next rest split q member fresh _
  rw [split] at increasing member
  rcases List.mem_append.1 member with placedMember | later
  · exact absurd placedMember fresh
  · have sorted := (List.pairwise_append.1 increasing).2.1
    rcases List.mem_cons.1 later with rfl | after
    · exact Nat.le_refl _
    · exact Nat.le_of_lt (List.rel_of_pairwise_cons sorted after)

/-! ## Kahn's algorithm takes the least ready position -/

section Kahn

variable {edges : List (Nat × Nat)} {count : Nat} {successors : Array (List Nat)} {s : KahnState}

/-- A position whose incoming edges all come from emitted positions is ready. -/
theorem KahnState.Invariant.mem_ready (inv : s.Invariant edges count) {q : Nat} (lt : q < count)
    (fresh : q ∉ s.emitted) (settled : ∀ u, (u, q) ∈ edges → u ∈ s.emitted) : q ∈ s.ready := by
  refine (inv.ready q).2 ⟨⟨lt, fresh⟩, ?_⟩
  rw [inv.degree, List.countP_eq_zero]
  rintro ⟨u, v⟩ edge
  simp only [decide_eq_true_eq, not_and, Decidable.not_not]
  rintro rfl
  exact settled u edge

/-- **One round takes the least ready position.** Emitting the head of the ready list keeps
every entry of the emitted list the least of the positions ready when it was emitted. -/
theorem KahnState.Invariant.picksLeastReady_emit (inv : s.Invariant edges count) {next : Nat}
    {rest : List Nat} (readyEq : s.ready = next :: rest)
    (greedy : PicksLeastReady (fun u v => (u, v) ∈ edges) (· < count) s.emitted) :
    PicksLeastReady (fun u v => (u, v) ∈ edges) (· < count) (s.emitted ++ [next]) := by
  intro placed chosen later split q lt fresh settled
  rcases List.eq_nil_or_concat' later with rfl | ⟨before, last, rfl⟩
  · -- the entry just emitted: `q` is ready, and the ready list starts with its least entry
    obtain ⟨rfl, same⟩ := List.append_inj' split rfl
    obtain rfl := List.singleton_inj.1 same
    have ready := inv.mem_ready lt fresh settled
    have sorted := inv.sorted
    rw [readyEq] at ready sorted
    rcases List.mem_cons.1 ready with rfl | later
    · exact Nat.le_refl _
    · exact Nat.le_of_lt (List.rel_of_pairwise_cons sorted later)
  · -- an entry emitted before
    have regrouped : s.emitted ++ [next] = (placed ++ chosen :: before) ++ [last] := by
      rw [split, List.append_assoc, List.cons_append]
    have earlier : s.emitted = placed ++ chosen :: before := (List.append_inj' regrouped rfl).1
    exact greedy placed chosen before earlier q lt fresh settled

/-- **A run takes the least ready position at every round.** -/
theorem KahnState.Invariant.run_picksLeastReady (inv : s.Invariant edges count)
    (inRange : ∀ e ∈ edges, e.1 < count ∧ e.2 < count)
    (successorsEq : ∀ p, successors.getD p [] = (edges.filter (·.1 = p)).map Prod.snd)
    (greedy : PicksLeastReady (fun u v => (u, v) ∈ edges) (· < count) s.emitted) :
    PicksLeastReady (fun u v => (u, v) ∈ edges) (· < count) (s.run successors count).emitted := by
  fun_induction KahnState.run s successors count with
  | case1 s empty => exact greedy
  | case2 s next rest readyEq fits ih =>
    exact ih (inv.emit inRange successorsEq readyEq) (inv.picksLeastReady_emit readyEq greedy)
  | case3 s next rest readyEq full => exact greedy

end Kahn

variable {ρ : Type}

/-! ## From positions to member indices -/

section Members

variable {parsers : Array (Descriptor ρ)} {members : List Nat}

/-- Increasing members keep the order of their positions. -/
theorem getD_lt_getD (increasing : members.Pairwise (· < ·)) {p q : Nat} (before : p < q)
    (inside : q < members.length) : members.getD p 0 < members.getD q 0 := by
  rw [List.getD_eq_getElem?_getD, List.getD_eq_getElem?_getD,
    List.getElem?_eq_getElem (Nat.lt_trans before inside), List.getElem?_eq_getElem inside]
  exact List.pairwise_iff_getElem.1 increasing p q _ inside before

theorem getD_of_getElem? {p i : Nat} (found : members[p]? = some i) : members.getD p 0 = i := by
  rw [List.getD_eq_getElem?_getD, found]
  rfl

variable (distinct : (parsers.toList.map Descriptor.name).Nodup)
  (increasing : members.Pairwise (· < ·)) (inRange : ∀ i ∈ members, i < parsers.size)
include distinct increasing inRange

/-- Read through the members, an order of positions that takes the least ready position takes
the least ready member. -/
theorem picksLeastReady_members {emitted : List Nat}
    (bounded : ∀ p ∈ emitted, p < members.length)
    (greedy : PicksLeastReady (fun u v => (u, v) ∈ positionEdges parsers members)
      (· < members.length) emitted) :
    PicksLeastReady (MemberEdge parsers members) (· ∈ members)
      (emitted.map (members.getD · 0)) := by
  have membersDistinct : members.Nodup := increasing.imp Nat.ne_of_lt
  -- positions below the length are told apart by their members
  have injective : ∀ p q, p < members.length → q < members.length →
      members.getD p 0 = members.getD q 0 → p = q := fun p q pInside qInside same => by
    rcases Nat.lt_trichotomy p q with before | equal | after
    · exact absurd same (Nat.ne_of_lt (getD_lt_getD increasing before qInside))
    · exact equal
    · exact absurd same.symm (Nat.ne_of_lt (getD_lt_getD increasing after pInside))
  intro placed next rest split j member fresh settled
  obtain ⟨placed', tail, rfl, rfl, mapped⟩ := List.map_eq_append_iff.1 split
  obtain ⟨next', rest', rfl, rfl, rfl⟩ := List.map_eq_cons_iff.1 mapped
  obtain ⟨q, atQ⟩ := List.mem_iff_getElem?.1 member
  have qInside : q < members.length := (List.getElem?_eq_some_iff.1 atQ).1
  obtain rfl := getD_of_getElem? atQ
  have bounded' : ∀ p ∈ placed' ++ next' :: rest', p < members.length := bounded
  have qFresh : q ∉ placed' := fun placedQ => fresh (List.mem_map_of_mem placedQ)
  -- every predecessor of `q` is a member placed before, read back to its position
  have qSettled : ∀ u, (u, q) ∈ positionEdges parsers members → u ∈ placed' := by
    intro u edge
    obtain ⟨i, j, atU, atQ', memberEdge⟩ :=
      (mem_positionEdges distinct membersDistinct inRange).1 edge
    rw [atQ] at atQ'
    obtain rfl := Option.some.inj atQ'
    obtain ⟨p, placedP, same⟩ := List.mem_map.1 (settled i (getD_of_getElem? atQ ▸ memberEdge))
    rw [← getD_of_getElem? atU] at same
    have pInside := bounded' p (List.mem_append_left _ placedP)
    obtain rfl := injective p u pInside (positionEdges_inRange _ edge).1 same
    exact placedP
  have atMost := greedy placed' next' rest' rfl q qInside qFresh qSettled
  rcases Nat.lt_or_eq_of_le atMost with before | rfl
  · exact Nat.le_of_lt (getD_lt_getD increasing before qInside)
  · exact Nat.le_refl _

/-- A finished run that emitted every position puts, read through the members, the source of
every member edge before its target. -/
theorem respectsEdges_members {finished : KahnState}
    (inv : finished.Invariant (positionEdges parsers members) members.length)
    (full : members.length ≤ finished.emitted.length) :
    RespectsEdges (MemberEdge parsers members) (finished.emitted.map (members.getD · 0)) := by
  have membersDistinct : members.Nodup := increasing.imp Nat.ne_of_lt
  intro i j edge
  obtain ⟨p, q, atP, atQ, positionEdge⟩ :=
    memberEdge_positions distinct membersDistinct inRange edge
  have qEmitted : q ∈ finished.emitted :=
    (inv.emitted_perm full).mem_iff.2 (List.mem_range.2 (positionEdges_inRange _ positionEdge).2)
  obtain ⟨pEmitted, before⟩ := inv.placed p q positionEdge qEmitted
  have placed := (pair_sublist_of_idxOf_lt pEmitted qEmitted before).map (members.getD · 0)
  rwa [List.map_cons, List.map_singleton, getD_of_getElem? atP, getD_of_getElem? atQ] at placed

end Members

/-! ## What a failed sort names -/

section Cycles

variable {parsers : Array (Descriptor ρ)} {members : List Nat}

/-- The names of the members on or after a cycle are distinct. -/
theorem cycleMemberNames_nodup (distinct : (parsers.toList.map Descriptor.name).Nodup)
    (membersDistinct : members.Nodup) : (cycleMemberNames parsers members).Nodup := by
  unfold cycleMemberNames
  refine (membersDistinct.filter _).filterMap fun i j name atI atJ =>
    index_unique (x := name) distinct ?_ ?_
  · simpa using atI
  · simpa using atJ

/-- A graph with a cycle has a member on it, so a failed sort names at least one parser. -/
theorem cycleMemberNames_ne_nil (inRange : ∀ i ∈ members, i < parsers.size)
    (cyclic : ¬OrderingAcyclic parsers members) : cycleMemberNames parsers members ≠ [] := by
  simp only [OrderingAcyclic, not_forall, not_not] at cyclic
  obtain ⟨i, loop⟩ := cyclic
  -- the first edge of the cycle leaves a member
  obtain ⟨_, edge, -⟩ := TransGen.head'_iff.1 loop
  have member : i ∈ members := edge.1
  intro empty
  simp only [cycleMemberNames, List.filterMap_eq_nil_iff, List.mem_filter, decide_eq_true_eq]
    at empty
  have unnamed := empty i ⟨member, i, loop, .refl⟩
  simp [inRange i member] at unnamed

end Cycles

/-! ## What the sort returns -/

section Sorting

variable (culture : String) {parsers : Array (Descriptor ρ)} {members : List Nat}

/-- A successful sort takes the least ready member at every step and puts the source of every
edge before its target. -/
theorem stableTopologicalSort_ok_picksLeastReady
    (distinct : (parsers.toList.map Descriptor.name).Nodup)
    (increasing : members.Pairwise (· < ·)) (inRange : ∀ i ∈ members, i < parsers.size)
    {order : List Nat} (sorted : stableTopologicalSort culture parsers members = .ok order) :
    PicksLeastReady (MemberEdge parsers members) (· ∈ members) order ∧
      RespectsEdges (MemberEdge parsers members) order := by
  obtain ⟨start, successors, inv, startEmpty, successorsEq, sortEq⟩ :=
    stableTopologicalSort_eq_run culture parsers members
  obtain ⟨finishedInv, -⟩ := inv.run positionEdges_inRange successorsEq
  -- nothing is emitted at the start, so there is no earlier choice to check
  have greedy := inv.run_picksLeastReady positionEdges_inRange successorsEq fun placed _ _ split =>
    absurd (congrArg List.length split) (by rw [startEmpty]; simp)
  rw [sortEq] at sorted
  split at sorted
  · cases sorted
  · next full =>
    cases sorted
    exact ⟨picksLeastReady_members distinct increasing inRange finishedInv.bounded greedy,
      respectsEdges_members distinct increasing inRange finishedInv (Nat.le_of_not_lt full)⟩

/-- **The stable topological sort is the lexicographically least order that respects the
constraints.** With distinct names and members in registration order, the sort succeeds
exactly when the members' ordering graph has no cycle. Its order is then a permutation of the
members that puts the source of every edge before its target, it is lexicographically at most
every other such permutation, and without edges it is the members themselves. When it fails,
it names the members on a cycle or after one, at least one and each once. -/
theorem stableTopologicalSort_is_least_order_or_names_cycle
    (distinct : (parsers.toList.map Descriptor.name).Nodup)
    (increasing : members.Pairwise (· < ·)) (inRange : ∀ i ∈ members, i < parsers.size) :
    ((∃ order, stableTopologicalSort culture parsers members = .ok order) ↔
        OrderingAcyclic parsers members) ∧
      (∀ order, stableTopologicalSort culture parsers members = .ok order →
        order.Perm members ∧ RespectsEdges (MemberEdge parsers members) order ∧
        (∀ other, other.Perm members → RespectsEdges (MemberEdge parsers members) other →
          order = other ∨ List.Lex (· < ·) order other) ∧
        ((∀ i j, ¬MemberEdge parsers members i j) → order = members)) ∧
      (∀ e, stableTopologicalSort culture parsers members = .error e →
        e = .orderingCycle culture (cycleMemberNames parsers members) ∧
          cycleMemberNames parsers members ≠ [] ∧ (cycleMemberNames parsers members).Nodup) := by
  have membersDistinct : members.Nodup := increasing.imp Nat.ne_of_lt
  refine ⟨stableTopologicalSort_ok_iff culture distinct membersDistinct inRange,
    fun order sorted => ?_, fun e failed => ?_⟩
  · obtain ⟨greedy, respects⟩ :=
      stableTopologicalSort_ok_picksLeastReady culture distinct increasing inRange sorted
    have perm := stableTopologicalSort_perm culture sorted
    refine ⟨perm, respects, fun other otherPerm otherRespects => ?_, fun noEdges => ?_⟩
    · exact greedy.eq_or_lex (fun q member => otherPerm.subset member)
        (otherPerm.nodup_iff.2 membersDistinct) otherRespects
        (perm.length_eq.trans otherPerm.length_eq.symm)
    · -- the members in registration order also take the least ready member
      exact greedy.unique (picksLeastReady_of_increasing increasing)
        (fun q member => perm.subset member) (fun q member => member)
        (perm.nodup_iff.2 membersDistinct) membersDistinct respects
        (fun a b edge => absurd edge (noEdges a b)) perm.length_eq
  · obtain ⟨cyclic, rfl⟩ :=
      (stableTopologicalSort_eq_error_iff culture distinct membersDistinct inRange).1 failed
    exact ⟨rfl, cycleMemberNames_ne_nil inRange cyclic,
      cycleMemberNames_nodup distinct membersDistinct⟩

/-- Three parsers `A`, `B`, `C`, where `A` is to come after `C`. -/
def constrainedParsers : Array (Descriptor Unit) :=
  #[{ name := "A", rule := (), after := ["C"] }, { name := "B", rule := () },
    { name := "C", rule := () }]

theorem constrainedParsers_sort_is_least :
    (constrainedParsers.toList.map Descriptor.name).Nodup ∧ [0, 1, 2].Pairwise (· < ·) ∧
      (∀ i ∈ [0, 1, 2], i < constrainedParsers.size) ∧
      (((∃ order, stableTopologicalSort "any" constrainedParsers [0, 1, 2] = .ok order) ↔
          OrderingAcyclic constrainedParsers [0, 1, 2]) ∧
        (∀ order, stableTopologicalSort "any" constrainedParsers [0, 1, 2] = .ok order →
          order.Perm [0, 1, 2] ∧ RespectsEdges (MemberEdge constrainedParsers [0, 1, 2]) order ∧
          (∀ other, other.Perm [0, 1, 2] →
            RespectsEdges (MemberEdge constrainedParsers [0, 1, 2]) other →
            order = other ∨ List.Lex (· < ·) order other) ∧
          ((∀ i j, ¬MemberEdge constrainedParsers [0, 1, 2] i j) → order = [0, 1, 2])) ∧
        (∀ e, stableTopologicalSort "any" constrainedParsers [0, 1, 2] = .error e →
          e = .orderingCycle "any" (cycleMemberNames constrainedParsers [0, 1, 2]) ∧
            cycleMemberNames constrainedParsers [0, 1, 2] ≠ [] ∧
            (cycleMemberNames constrainedParsers [0, 1, 2]).Nodup)) :=
  ⟨by decide, by decide, by decide,
    stableTopologicalSort_is_least_order_or_names_cycle "any" (by decide) (by decide) (by decide)⟩

/-- `A` waits for `C`, and `B` is ready before `C`. -/
example : stableTopologicalSort "any" constrainedParsers [0, 1, 2] = .ok [1, 2, 0] := by
  decide +kernel

end Sorting

end Reckon

import Mathlib.Logic.Relation
import Mathlib.Order.WellFounded
import Mathlib.Data.Fintype.Card
import Mathlib.Data.Fintype.Fin
import Mathlib.Data.List.Nodup
import Mathlib.Data.List.Basic
import Reckon.Registry.Ordering

/-!
Contract: the stable topological sort succeeds exactly when the ordering graph of its members
has no cycle; it then orders every member once, and otherwise names the members on a cycle or
after one.

Owns: the invariant of Kahn's algorithm as the sort runs it (in-degrees count the edges from
positions not yet emitted, the ready list holds exactly the unemitted positions of in-degree
zero in increasing order, and every edge points forward in the emitted list), its
preservation by one round (`KahnState.Invariant.emit`) and by a run
(`KahnState.Invariant.run`), and what the finished state says: every position is emitted
exactly when there is no cycle, and the positions left pending are those on a cycle or after
one. These are then read through the list of members, where distinct names make the computed
edges exactly the `Precedes` pairs.

Does not own: which of the orders that respect the edges the sort picks.
-/

set_option autoImplicit false

open Relation

namespace Reckon

/-! ## The ready list and the in-degree array -/

@[simp] theorem mem_insertIncreasing {x y : Nat} {l : List Nat} :
    y ∈ insertIncreasing x l ↔ y = x ∨ y ∈ l := by
  induction l with
  | nil => simp [insertIncreasing]
  | cons z rest ih =>
    rw [insertIncreasing]
    split
    · simp
    · simp only [List.mem_cons, ih]
      tauto

theorem pairwise_insertIncreasing {x : Nat} {l : List Nat} (sorted : l.Pairwise (· < ·))
    (fresh : x ∉ l) : (insertIncreasing x l).Pairwise (· < ·) := by
  induction l with
  | nil => simp [insertIncreasing]
  | cons z rest ih =>
    rw [List.pairwise_cons] at sorted
    rw [List.mem_cons, not_or] at fresh
    rw [insertIncreasing]
    split
    · next below =>
      have first : x < z := Nat.lt_of_le_of_ne below fresh.1
      refine List.pairwise_cons.2 ⟨fun w mem => ?_, List.pairwise_cons.2 sorted⟩
      rcases List.mem_cons.1 mem with rfl | mem
      · exact first
      · exact Nat.lt_trans first (sorted.1 w mem)
    · next above =>
      refine List.pairwise_cons.2 ⟨fun w mem => ?_, ih sorted.2 fresh.2⟩
      rcases mem_insertIncreasing.1 mem with rfl | mem
      · omega
      · exact sorted.1 w mem

theorem getD_set! (a : Array Nat) (x v q : Nat) :
    (a.set! x v).getD q 0 = if x = q ∧ x < a.size then v else a.getD q 0 := by
  simp only [Array.getD_eq_getD_getElem?, Array.set!_eq_setIfInBounds,
    Array.getElem?_setIfInBounds]
  by_cases same : x = q
  · subst same
    by_cases inside : x < a.size <;> simp [inside]
  · simp [same]

/-- What releasing the successors of an emitted position keeps: the ready list holds
exactly the candidates with no in-degree left, in increasing order, and each position still
to be released has at least as much in-degree as releases left. -/
structure Releasing (candidate : Nat → Prop) (released : List Nat) (degrees : Array Nat)
    (ready : List Nat) : Prop where
  readyIff : ∀ q, q ∈ ready ↔ candidate q ∧ degrees.getD q 0 = 0
  sorted : ready.Pairwise (· < ·)
  enough : ∀ q, released.count q ≤ degrees.getD q 0
  eligible : ∀ q ∈ released, candidate q

/-- One release: lower the in-degree of `x`, and make `x` ready when it reaches zero. -/
theorem Releasing.release {candidate : Nat → Prop} {x : Nat} {rest : List Nat}
    {degrees : Array Nat} {ready : List Nat} (inv : Releasing candidate (x :: rest) degrees ready) :
    (∀ q, (degrees.set! x (degrees.getD x 0 - 1)).getD q 0 =
      if q = x then degrees.getD x 0 - 1 else degrees.getD q 0) ∧
    (degrees.set! x (degrees.getD x 0 - 1)).size = degrees.size ∧
    Releasing candidate rest (degrees.set! x (degrees.getD x 0 - 1))
      (if degrees.getD x 0 - 1 == 0 then insertIncreasing x ready else ready) := by
  -- `x` still has an edge to release, so it is not ready and its slot exists
  have positive : 1 ≤ degrees.getD x 0 := by
    have := inv.enough x
    rw [List.count_cons_self] at this
    omega
  have inside : x < degrees.size := by
    by_contra outside
    simp [Array.getD_eq_getD_getElem?, Array.getElem?_eq_none (Nat.le_of_not_lt outside)]
      at positive
  have notReady : x ∉ ready := fun mem => by
    have := ((inv.readyIff x).1 mem).2
    omega
  have lowered : ∀ q, (degrees.set! x (degrees.getD x 0 - 1)).getD q 0 =
      if q = x then degrees.getD x 0 - 1 else degrees.getD q 0 := by
    intro q
    rw [getD_set!]
    by_cases same : q = x
    · subst same
      simp [inside]
    · simp [same, Ne.symm same]
  refine ⟨lowered, by rw [Array.set!_eq_setIfInBounds, Array.size_setIfInBounds],
    ⟨fun q => ?_, ?_, fun q => ?_, fun q mem => inv.eligible q (List.mem_cons_of_mem x mem)⟩⟩
  · rw [lowered]
    by_cases same : q = x
    · subst same
      rw [if_pos rfl]
      by_cases zero : degrees.getD q 0 - 1 = 0
      · rw [if_pos (beq_iff_eq.2 zero)]
        exact ⟨fun _ => ⟨inv.eligible q List.mem_cons_self, zero⟩,
          fun _ => mem_insertIncreasing.2 (Or.inl rfl)⟩
      · rw [if_neg (mt beq_iff_eq.1 zero)]
        exact ⟨fun mem => absurd mem notReady, fun ready => absurd ready.2 zero⟩
    · have stays : q ∈ (if degrees.getD x 0 - 1 == 0 then insertIncreasing x ready
          else ready) ↔ q ∈ ready := by
        by_cases zero : degrees.getD x 0 - 1 = 0
        · rw [if_pos (beq_iff_eq.2 zero), mem_insertIncreasing]
          simp only [same, false_or]
        · rw [if_neg (mt beq_iff_eq.1 zero)]
      rw [if_neg same, stays, inv.readyIff]
  · by_cases zero : degrees.getD x 0 - 1 = 0
    · rw [if_pos (beq_iff_eq.2 zero)]
      exact pairwise_insertIncreasing inv.sorted notReady
    · rw [if_neg (mt beq_iff_eq.1 zero)]
      exact inv.sorted
  · rw [lowered]
    have := inv.enough q
    rw [List.count_cons] at this
    by_cases same : q = x
    · subst same
      simp at this ⊢
      omega
    · simp [same, Ne.symm same] at this ⊢
      omega

/-- Releasing a whole list lowers each in-degree by the number of its releases. -/
theorem release_spec (step : Array Nat × List Nat → Nat → Array Nat × List Nat)
    (stepEq : ∀ acc x, step acc x = (acc.1.set! x (acc.1.getD x 0 - 1),
      if acc.1.getD x 0 - 1 == 0 then insertIncreasing x acc.2 else acc.2))
    {candidate : Nat → Prop} :
    ∀ (released : List Nat) (degrees : Array Nat) (ready : List Nat),
      Releasing candidate released degrees ready →
      (released.foldl step (degrees, ready)).1.size = degrees.size ∧
        (∀ q, (released.foldl step (degrees, ready)).1.getD q 0 =
          degrees.getD q 0 - released.count q) ∧
        Releasing candidate [] (released.foldl step (degrees, ready)).1
          (released.foldl step (degrees, ready)).2
  | [], _, _, inv => ⟨rfl, fun q => by simp, inv⟩
  | x :: rest, degrees, ready, inv => by
    obtain ⟨lowered, size, next⟩ := inv.release
    obtain ⟨size', degree, final⟩ := release_spec step stepEq rest _ _ next
    rw [List.foldl_cons, stepEq]
    refine ⟨size'.trans size, fun q => ?_, final⟩
    rw [degree, lowered, List.count_cons]
    by_cases same : q = x
    · subst same
      simp
      omega
    · simp [same, Ne.symm same]

/-- **Emitting a position.** It is appended to the emitted list and its successors are
released. -/
theorem KahnState.emit_spec (s : KahnState) (successors : Array (List Nat)) (position : Nat)
    {candidate : Nat → Prop}
    (releasing : Releasing candidate (successors.getD position []) s.inDegree s.ready) :
    (s.emit successors position).emitted = s.emitted ++ [position] ∧
      (s.emit successors position).inDegree.size = s.inDegree.size ∧
      (∀ q, (s.emit successors position).inDegree.getD q 0 =
        s.inDegree.getD q 0 - (successors.getD position []).count q) ∧
      Releasing candidate [] (s.emit successors position).inDegree
        (s.emit successors position).ready :=
  ⟨rfl, release_spec _ (fun _ _ => rfl) _ s.inDegree s.ready releasing⟩

/-! ## The invariant of a run -/

section Invariant

variable (edges : List (Nat × Nat)) (count : Nat)

/-- What holds of every state of Kahn's algorithm over `edges` among `count` positions. -/
structure KahnState.Invariant (s : KahnState) : Prop where
  size : s.inDegree.size = count
  degree : ∀ q, s.inDegree.getD q 0 = edges.countP fun e => e.2 = q ∧ e.1 ∉ s.emitted
  ready : ∀ q, q ∈ s.ready ↔ (q < count ∧ q ∉ s.emitted) ∧ s.inDegree.getD q 0 = 0
  sorted : s.ready.Pairwise (· < ·)
  nodup : s.emitted.Nodup
  bounded : ∀ q ∈ s.emitted, q < count
  placed : ∀ u v, (u, v) ∈ edges → v ∈ s.emitted →
    u ∈ s.emitted ∧ s.emitted.idxOf u < s.emitted.idxOf v

variable {edges count}

theorem countP_pending_split (emitted : List Nat) {p : Nat} (fresh : p ∉ emitted) (q : Nat) :
    edges.countP (fun e => e.2 = q ∧ e.1 ∉ emitted) =
      edges.countP (fun e => e.2 = q ∧ e.1 ∉ emitted ++ [p]) +
        edges.countP (fun e => e.1 = p ∧ e.2 = q) := by
  induction edges with
  | nil => rfl
  | cons e rest ih =>
    simp only [List.countP_cons, ih]
    by_cases source : e.1 = p
    · subst source
      simp [fresh]
      omega
    · simp [source]
      omega

variable {successors : Array (List Nat)} {s : KahnState}

/-- Every edge into a ready position comes from an emitted one. -/
theorem KahnState.Invariant.settled_of_ready (inv : s.Invariant edges count) {next : Nat}
    (ready : next ∈ s.ready) {u : Nat} (edge : (u, next) ∈ edges) : u ∈ s.emitted := by
  have zero := ((inv.ready next).1 ready).2
  rw [inv.degree, List.countP_eq_zero] at zero
  by_contra pending
  exact zero _ edge (by simp [pending])

theorem released_count
    (successorsEq : ∀ p, successors.getD p [] = (edges.filter (·.1 = p)).map Prod.snd)
    (p q : Nat) :
    (successors.getD p []).count q = edges.countP fun e => e.1 = p ∧ e.2 = q := by
  rw [successorsEq, List.count_eq_countP, List.countP_map, List.countP_filter]
  exact List.countP_congr fun e _ => by simp [and_comm]

/-- Emitting the head of the ready list releases its successors from a good state: they are
unemitted positions with an edge still counted in their in-degree. -/
theorem KahnState.Invariant.releasing (inv : s.Invariant edges count)
    (inRange : ∀ e ∈ edges, e.1 < count ∧ e.2 < count)
    (successorsEq : ∀ p, successors.getD p [] = (edges.filter (·.1 = p)).map Prod.snd)
    {next : Nat} {rest : List Nat} (readyEq : s.ready = next :: rest) :
    Releasing (fun q => q < count ∧ q ∉ s.emitted ++ [next]) (successors.getD next [])
      s.inDegree rest := by
  have sorted := inv.sorted
  rw [readyEq, List.pairwise_cons] at sorted
  have fresh := ((inv.ready next).1 (readyEq ▸ List.mem_cons_self)).1.2
  refine ⟨fun q => ⟨fun mem => ?_, fun ⟨⟨lt, notIn⟩, zero⟩ => ?_⟩, sorted.2, fun q => ?_,
    fun q mem => ?_⟩
  · have ready := (inv.ready q).1 (readyEq ▸ List.mem_cons_of_mem next mem)
    have : q ≠ next := fun same => Nat.lt_irrefl q (same ▸ sorted.1 q mem)
    simp_all
  · have mem := (inv.ready q).2 ⟨⟨lt, fun h => notIn (List.mem_append_left _ h)⟩, zero⟩
    rw [readyEq] at mem
    rcases List.mem_cons.1 mem with rfl | mem
    · simp at notIn
    · exact mem
  · rw [released_count successorsEq, inv.degree, countP_pending_split s.emitted fresh q]
    omega
  · rw [successorsEq] at mem
    obtain ⟨⟨source, target⟩, edgeMem, rfl⟩ := List.mem_map.1 mem
    obtain ⟨edge, rfl⟩ : (source, target) ∈ edges ∧ source = next := by simpa using edgeMem
    refine ⟨(inRange _ edge).2, fun emitted => ?_⟩
    rcases List.mem_append.1 emitted with emitted | single
    · exact fresh (inv.placed _ _ edge emitted).1
    · -- a loop on `next` would be an edge into it from an unemitted position
      rw [List.mem_singleton] at single
      exact fresh (inv.settled_of_ready (readyEq ▸ List.mem_cons_self) (single ▸ edge))

/-- Appending a position whose predecessors are all emitted keeps every edge pointing forward
in the emitted list. -/
theorem placed_append {emitted : List Nat}
    (placed : ∀ u v, (u, v) ∈ edges → v ∈ emitted → u ∈ emitted ∧ emitted.idxOf u < emitted.idxOf v)
    {next : Nat} (fresh : next ∉ emitted) (settled : ∀ u, (u, next) ∈ edges → u ∈ emitted) :
    ∀ u v, (u, v) ∈ edges → v ∈ emitted ++ [next] →
      u ∈ emitted ++ [next] ∧ (emitted ++ [next]).idxOf u < (emitted ++ [next]).idxOf v := by
  intro u v edge mem
  rcases List.mem_append.1 mem with old | single
  · obtain ⟨uMem, before⟩ := placed u v edge old
    refine ⟨List.mem_append_left _ uMem, ?_⟩
    rw [List.idxOf_append_of_mem uMem, List.idxOf_append_of_mem old]
    exact before
  · obtain rfl := List.mem_singleton.1 single
    have uMem := settled u edge
    refine ⟨List.mem_append_left _ uMem, ?_⟩
    rw [List.idxOf_append_of_mem uMem, List.idxOf_append, if_neg fresh]
    simpa using List.idxOf_lt_length_of_mem uMem

/-- **One round of Kahn's algorithm keeps the invariant.** -/
theorem KahnState.Invariant.emit (inv : s.Invariant edges count)
    (inRange : ∀ e ∈ edges, e.1 < count ∧ e.2 < count)
    (successorsEq : ∀ p, successors.getD p [] = (edges.filter (·.1 = p)).map Prod.snd)
    {next : Nat} {rest : List Nat} (readyEq : s.ready = next :: rest) :
    ({ s with ready := rest }.emit successors next).Invariant edges count := by
  have nextReady : next ∈ s.ready := readyEq ▸ List.mem_cons_self
  obtain ⟨⟨nextLt, fresh⟩, _⟩ := (inv.ready next).1 nextReady
  obtain ⟨emittedEq, size, degree, ⟨readyIff, sorted, _, _⟩⟩ :=
    KahnState.emit_spec { s with ready := rest } successors next
      (inv.releasing inRange successorsEq readyEq)
  refine ⟨size.trans inv.size, fun q => ?_, fun q => ?_, sorted, ?_, fun q mem => ?_, ?_⟩
  · rw [degree, emittedEq, released_count successorsEq]
    dsimp only
    rw [inv.degree, countP_pending_split s.emitted fresh q]
    omega
  · rw [readyIff, emittedEq]
  · rw [emittedEq]
    exact List.nodup_append.2 ⟨inv.nodup, List.nodup_singleton next,
      fun a mem b single => List.mem_singleton.1 single ▸ fun same => fresh (same ▸ mem)⟩
  · rw [emittedEq] at mem
    rcases List.mem_append.1 mem with old | single
    · exact inv.bounded q old
    · exact List.mem_singleton.1 single ▸ nextLt
  · rw [emittedEq]
    exact placed_append inv.placed fresh fun u edge => inv.settled_of_ready nextReady edge

/-- **A whole run keeps the invariant**, and stops with nothing ready or everything emitted. -/
theorem KahnState.Invariant.run (inv : s.Invariant edges count)
    (inRange : ∀ e ∈ edges, e.1 < count ∧ e.2 < count)
    (successorsEq : ∀ p, successors.getD p [] = (edges.filter (·.1 = p)).map Prod.snd) :
    (s.run successors count).Invariant edges count ∧
      ((s.run successors count).ready = [] ∨ count ≤ (s.run successors count).emitted.length) := by
  fun_induction KahnState.run s successors count with
  | case1 s empty => exact ⟨inv, .inl empty⟩
  | case2 s next rest readyEq fits ih => exact ih (inv.emit inRange successorsEq readyEq)
  | case3 s next rest readyEq full => exact ⟨inv, .inr (Nat.le_of_not_lt full)⟩

end Invariant

/-! ## The arrays built from the edges -/

theorem inDegree_foldl (edges : List (Nat × Nat)) (q : Nat) :
    ∀ init : Array Nat, (∀ e ∈ edges, e.2 < init.size) →
      (edges.foldl (fun acc e => acc.modify e.2 (· + 1)) init).getD q 0 =
        init.getD q 0 + edges.countP (·.2 = q) ∧
      (edges.foldl (fun acc e => acc.modify e.2 (· + 1)) init).size = init.size := by
  induction edges with
  | nil => simp
  | cons e rest ih =>
    intro init inRange
    have bumped : (init.modify e.2 (· + 1)).getD q 0 = init.getD q 0 + if e.2 = q then 1 else 0 := by
      simp only [Array.getD_eq_getD_getElem?, Array.getElem?_modify]
      by_cases same : e.2 = q
      · subst same
        simp [Array.getElem?_eq_getElem (inRange e List.mem_cons_self)]
      · simp [same]
    obtain ⟨degree, size⟩ := ih (init.modify e.2 (· + 1)) fun e' mem => by
      rw [Array.size_modify]
      exact inRange e' (List.mem_cons_of_mem e mem)
    rw [List.foldl_cons, degree, size, bumped, List.countP_cons, Array.size_modify]
    refine ⟨?_, rfl⟩
    by_cases same : e.2 = q
    · simp [same]
      omega
    · simp [same]

theorem successors_foldl (edges : List (Nat × Nat)) (p : Nat) :
    ∀ init : Array (List Nat), (∀ e ∈ edges, e.1 < init.size) →
      (edges.foldl (fun acc e => acc.modify e.1 (· ++ [e.2])) init).getD p [] =
        init.getD p [] ++ (edges.filter (·.1 = p)).map Prod.snd ∧
      (edges.foldl (fun acc e => acc.modify e.1 (· ++ [e.2])) init).size = init.size := by
  induction edges with
  | nil => simp
  | cons e rest ih =>
    intro init inRange
    have appended : (init.modify e.1 (· ++ [e.2])).getD p [] =
        init.getD p [] ++ if e.1 = p then [e.2] else [] := by
      simp only [Array.getD_eq_getD_getElem?, Array.getElem?_modify]
      by_cases same : e.1 = p
      · subst same
        simp [Array.getElem?_eq_getElem (inRange e List.mem_cons_self)]
      · simp [same]
    obtain ⟨targets, size⟩ := ih (init.modify e.1 (· ++ [e.2])) fun e' mem => by
      rw [Array.size_modify]
      exact inRange e' (List.mem_cons_of_mem e mem)
    rw [List.foldl_cons, targets, size, appended, List.filter_cons, Array.size_modify]
    refine ⟨?_, rfl⟩
    by_cases same : e.1 = p
    · simp [same]
    · simp [same]

/-! ## Cycles -/

/-- `x` lies on a cycle of `R`, or a cycle of `R` reaches it. -/
def OnOrAfterCycle {α : Type} (R : α → α → Prop) (x : α) : Prop :=
  ∃ c, TransGen R c c ∧ ReflTransGen R c x

/-- Among finitely many positions, if every unsettled position has an unsettled
predecessor, each of them lies on a cycle or after one. -/
theorem onOrAfterCycle_of_pending {R : Nat → Nat → Prop} {count : Nat} (unsettled : Nat → Prop)
    (below : ∀ q, unsettled q → q < count)
    (pending : ∀ q, unsettled q → ∃ u, unsettled u ∧ R u q) {q : Nat} (start : unsettled q) :
    OnOrAfterCycle R q := by
  by_contra free
  -- once no cycle reaches `q`, "reaches `b`, which reaches `q`" is well-founded below `count`
  let r : Fin count → Fin count → Prop := fun a b => TransGen R a b ∧ ReflTransGen R b q
  have : IsTrans (Fin count) r := ⟨fun _ _ _ ab bc => ⟨ab.1.trans bc.1, bc.2⟩⟩
  have : Std.Irrefl r := ⟨fun a loop => free ⟨a, loop.1, loop.2⟩⟩
  obtain ⟨m, ⟨mUnsettled, mReaches⟩, least⟩ := (Finite.wellFounded_of_trans_of_irrefl r).has_min
    {a | unsettled a ∧ ReflTransGen R a q} ⟨⟨q, below q start⟩, start, .refl⟩
  obtain ⟨u, uUnsettled, edge⟩ := pending m mUnsettled
  exact least ⟨u, below u uUnsettled⟩ ⟨uUnsettled, .head edge mReaches⟩ ⟨.single edge, mReaches⟩

/-! ## The finished state -/

section Finished

variable {edges : List (Nat × Nat)} {count : Nat} {s : KahnState}

theorem KahnState.Invariant.placed_of_reaches (inv : s.Invariant edges count) {u v : Nat}
    (path : TransGen (fun a b => (a, b) ∈ edges) u v) (placed : v ∈ s.emitted) :
    u ∈ s.emitted ∧ s.emitted.idxOf u < s.emitted.idxOf v := by
  induction path with
  | single edge => exact inv.placed _ _ edge placed
  | tail _ edge ih =>
    obtain ⟨mid, midBefore⟩ := inv.placed _ _ edge placed
    obtain ⟨first, firstBefore⟩ := ih mid
    exact ⟨first, firstBefore.trans midBefore⟩

theorem KahnState.Invariant.not_mem_of_onOrAfterCycle (inv : s.Invariant edges count) {q : Nat}
    (after : OnOrAfterCycle (fun a b => (a, b) ∈ edges) q) : q ∉ s.emitted := by
  obtain ⟨c, loop, reaches⟩ := after
  intro placed
  have cPlaced : c ∈ s.emitted := by
    rcases reflTransGen_iff_eq_or_transGen.1 reaches with rfl | path
    · exact placed
    · exact (inv.placed_of_reaches path placed).1
  exact Nat.lt_irrefl _ (inv.placed_of_reaches loop cPlaced).2

theorem KahnState.Invariant.degree_eq_zero (inv : s.Invariant edges count) {q : Nat}
    (placed : q ∈ s.emitted) : s.inDegree.getD q 0 = 0 := by
  rw [inv.degree, List.countP_eq_zero]
  rintro ⟨u, v⟩ edge pending
  simp only [decide_eq_true_eq] at pending
  exact pending.2 (inv.placed u v edge (pending.1 ▸ placed)).1

theorem KahnState.Invariant.onOrAfterCycle_of_stuck (inv : s.Invariant edges count)
    (inRange : ∀ e ∈ edges, e.1 < count ∧ e.2 < count) (stuck : s.ready = []) {q : Nat}
    (lt : q < count) (fresh : q ∉ s.emitted) : OnOrAfterCycle (fun a b => (a, b) ∈ edges) q := by
  refine onOrAfterCycle_of_pending (fun q => q < count ∧ q ∉ s.emitted) (fun _ h => h.1)
    (fun q ⟨lt, fresh⟩ => ?_) ⟨lt, fresh⟩
  have notReady : s.inDegree.getD q 0 ≠ 0 := fun zero => by
    have ready := (inv.ready q).2 ⟨⟨lt, fresh⟩, zero⟩
    rw [stuck] at ready
    exact List.not_mem_nil ready
  rw [inv.degree] at notReady
  obtain ⟨⟨u, v⟩, edge, pending⟩ := List.countP_pos_iff.1 (Nat.pos_of_ne_zero notReady)
  simp only [decide_eq_true_eq] at pending
  obtain ⟨rfl, uFresh⟩ := pending
  exact ⟨u, ⟨(inRange _ edge).1, uFresh⟩, edge⟩

theorem KahnState.Invariant.emitted_perm (inv : s.Invariant edges count)
    (full : count ≤ s.emitted.length) : s.emitted.Perm (List.range count) :=
  (inv.nodup.subperm fun q mem => List.mem_range.2 (inv.bounded q mem)).perm_of_length_le
    (by simpa using full)

/-- **All positions are emitted exactly when the edges have no cycle.** -/
theorem KahnState.Invariant.full_iff_acyclic (inv : s.Invariant edges count)
    (inRange : ∀ e ∈ edges, e.1 < count ∧ e.2 < count)
    (finished : s.ready = [] ∨ count ≤ s.emitted.length) :
    count ≤ s.emitted.length ↔ ∀ c, ¬TransGen (fun a b => (a, b) ∈ edges) c c := by
  constructor
  · intro full c loop
    have cLt : c < count := by
      cases loop with
      | single edge => exact (inRange _ edge).2
      | tail _ edge => exact (inRange _ edge).2
    have cPlaced := (inv.emitted_perm full).mem_iff.2 (List.mem_range.2 cLt)
    exact inv.not_mem_of_onOrAfterCycle ⟨c, loop, .refl⟩ cPlaced
  · intro acyclic
    by_contra short
    have stuck := finished.resolve_right short
    -- some position below `count` is left, since the emitted ones are distinct
    obtain ⟨q, lt, fresh⟩ : ∃ q < count, q ∉ s.emitted := by
      by_contra all
      have covered := List.nodup_range.subperm fun q mem => by
        by_contra fresh
        exact all ⟨q, List.mem_range.1 mem, fresh⟩
      exact short (by simpa using covered.length_le)
    obtain ⟨c, loop, _⟩ := inv.onOrAfterCycle_of_stuck inRange stuck lt fresh
    exact acyclic c loop

/-- **The positions left pending are those on or after a cycle.** -/
theorem KahnState.Invariant.pending_iff (inv : s.Invariant edges count)
    (inRange : ∀ e ∈ edges, e.1 < count ∧ e.2 < count) (stuck : s.ready = []) {q : Nat}
    (lt : q < count) :
    0 < s.inDegree.getD q 0 ↔ OnOrAfterCycle (fun a b => (a, b) ∈ edges) q := by
  constructor
  · intro positive
    refine inv.onOrAfterCycle_of_stuck inRange stuck lt fun placed => ?_
    rw [inv.degree_eq_zero placed] at positive
    exact Nat.lt_irrefl 0 positive
  · intro after
    by_contra zero
    have ready := (inv.ready q).2 ⟨⟨lt, inv.not_mem_of_onOrAfterCycle after⟩, by omega⟩
    rw [stuck] at ready
    exact List.not_mem_nil ready

end Finished

/-! ## The edges among the members -/

variable {ρ : Type}

/-- `a` is to be tried before `b`: `a` names `b` among its `before` names, or `b` names `a`
among its `after` names. -/
def Descriptor.Precedes (a b : Descriptor ρ) : Prop :=
  b.name ∈ a.before ∨ a.name ∈ b.after

instance (a b : Descriptor ρ) : Decidable (a.Precedes b) :=
  inferInstanceAs (Decidable (_ ∨ _))

theorem mem_orderingEdges {names : List String} {descriptors : List (Descriptor ρ)} {p q : Nat} :
    (p, q) ∈ orderingEdges names descriptors ↔
      (∃ a, descriptors[p]? = some a ∧ ∃ name ∈ a.before, names.findIdx? (· == name) = some q) ∨
      (∃ b, descriptors[q]? = some b ∧ ∃ name ∈ b.after, names.findIdx? (· == name) = some p) := by
  rw [orderingEdges, ← List.flatMap_def, List.mem_flatMap]
  simp only [List.mem_zipIdx_iff_getElem?, List.mem_append, List.mem_filterMap,
    Option.map_eq_some_iff, Prod.mk.injEq, exists_eq_right_right, Prod.exists]
  constructor
  · rintro ⟨a, source, found, ⟨name, mem, position, rfl⟩ | ⟨name, mem, target, position, rfl, rfl⟩⟩
    · exact .inl ⟨a, found, name, mem, position⟩
    · exact .inr ⟨a, found, name, mem, position⟩
  · rintro (⟨a, found, name, mem, position⟩ | ⟨b, found, name, mem, position⟩)
    · exact ⟨a, p, found, .inl ⟨name, mem, position, rfl⟩⟩
    · exact ⟨b, q, found, .inr ⟨name, mem, p, position, rfl, rfl⟩⟩

theorem index_unique {α : Type} {l : List α} (distinct : l.Nodup) {i j : Nat} {x : α}
    (atI : l[i]? = some x) (atJ : l[j]? = some x) : i = j := by
  obtain ⟨iLt, rfl⟩ := List.getElem?_eq_some_iff.1 atI
  obtain ⟨jLt, same⟩ := List.getElem?_eq_some_iff.1 atJ
  exact (distinct.getElem_inj_iff).1 same.symm

/-- With distinct names, a name is found at the position of the descriptor that has it. -/
theorem findIdx?_name_eq_some {descriptors : List (Descriptor ρ)}
    (distinct : (descriptors.map Descriptor.name).Nodup) {name : String} {q : Nat} :
    (descriptors.map Descriptor.name).findIdx? (· == name) = some q ↔
      ∃ b, descriptors[q]? = some b ∧ b.name = name := by
  rw [List.findIdx?_eq_some_iff_getElem]
  constructor
  · rintro ⟨lt, found, _⟩
    have inside : q < descriptors.length := by simpa using lt
    refine ⟨descriptors[q], by simp, ?_⟩
    simpa using found
  · rintro ⟨b, found, rfl⟩
    obtain ⟨lt, rfl⟩ := List.getElem?_eq_some_iff.1 found
    refine ⟨by simpa using lt, by simp, fun j jLt same => ?_⟩
    have atJ : (descriptors.map Descriptor.name)[j]? = some descriptors[q].name := by
      rw [List.getElem?_eq_getElem (Nat.lt_trans jLt (by simpa using lt))]
      simpa using same
    have atQ : (descriptors.map Descriptor.name)[q]? = some descriptors[q].name := by simp [found]
    exact Nat.ne_of_lt jLt (index_unique distinct atJ atQ)

/-- With distinct names, the edges are exactly the pairs in `Precedes`. -/
theorem mem_orderingEdges_iff {descriptors : List (Descriptor ρ)}
    (distinct : (descriptors.map Descriptor.name).Nodup) {p q : Nat} :
    (p, q) ∈ orderingEdges (descriptors.map Descriptor.name) descriptors ↔
      ∃ a b, descriptors[p]? = some a ∧ descriptors[q]? = some b ∧ a.Precedes b := by
  simp only [mem_orderingEdges, findIdx?_name_eq_some distinct]
  constructor
  · rintro (⟨a, atP, name, mem, b, atQ, rfl⟩ | ⟨b, atQ, name, mem, a, atP, rfl⟩)
    · exact ⟨a, b, atP, atQ, .inl mem⟩
    · exact ⟨a, b, atP, atQ, .inr mem⟩
  · rintro ⟨a, b, atP, atQ, before | after⟩
    · exact .inl ⟨a, atP, b.name, before, b, atQ, rfl⟩
    · exact .inr ⟨b, atQ, a.name, after, a, atP, rfl⟩

theorem orderingEdges_inRange {descriptors : List (Descriptor ρ)} :
    ∀ e ∈ orderingEdges (descriptors.map Descriptor.name) descriptors,
      e.1 < descriptors.length ∧ e.2 < descriptors.length := by
  rintro ⟨p, q⟩ edge
  have named : ∀ {name : String} {k : Nat},
      (descriptors.map Descriptor.name).findIdx? (· == name) = some k → k < descriptors.length :=
    fun found => by simpa using (List.findIdx?_eq_some_iff_getElem.1 found).1
  rcases mem_orderingEdges.1 edge with ⟨a, atP, _, _, found⟩ | ⟨b, atQ, _, _, found⟩
  · exact ⟨(List.getElem?_eq_some_iff.1 atP).1, named found⟩
  · exact ⟨named found, (List.getElem?_eq_some_iff.1 atQ).1⟩

/-- The edges the sort computes, between positions in the list of members. -/
def positionEdges (parsers : Array (Descriptor ρ)) (members : List Nat) : List (Nat × Nat) :=
  let descriptors := members.filterMap fun index => parsers[index]?
  orderingEdges (descriptors.map Descriptor.name) descriptors

theorem positionEdges_inRange {parsers : Array (Descriptor ρ)} {members : List Nat} :
    ∀ e ∈ positionEdges parsers members, e.1 < members.length ∧ e.2 < members.length :=
  fun e edge =>
    have short := List.length_filterMap_le (fun index => parsers[index]?) members
    ⟨Nat.lt_of_lt_of_le (orderingEdges_inRange e edge).1 short,
      Nat.lt_of_lt_of_le (orderingEdges_inRange e edge).2 short⟩

/-- **The sort is Kahn's algorithm.** It starts with nothing emitted, from the in-degrees of
the member edges, in a state that keeps the invariant, and reads its answer off the finished
run. -/
theorem stableTopologicalSort_eq_run (culture : String) (parsers : Array (Descriptor ρ))
    (members : List Nat) :
    let descriptors := members.filterMap fun index => parsers[index]?
    ∃ (start : KahnState) (successors : Array (List Nat)),
      start.Invariant (positionEdges parsers members) members.length ∧ start.emitted = [] ∧
      (∀ p, successors.getD p [] =
        ((positionEdges parsers members).filter (·.1 = p)).map Prod.snd) ∧
      stableTopologicalSort culture parsers members =
        if (start.run successors members.length).emitted.length < members.length then
          .error (.orderingCycle culture
            (((List.range members.length).filter
              ((start.run successors members.length).inDegree.getD · 0 > 0)).filterMap
              fun position => descriptors[position]?.map Descriptor.name))
        else .ok ((start.run successors members.length).emitted.map
          fun position => members.getD position 0) := by
  intro descriptors
  have inRange : ∀ e ∈ positionEdges parsers members, e.1 < members.length ∧ e.2 < members.length :=
    positionEdges_inRange
  set edges := positionEdges parsers members
  have zeros : ∀ q, (Array.replicate members.length 0).getD q 0 = 0 := fun q => by
    simp only [Array.getD_eq_getD_getElem?, Array.getElem?_replicate]
    split <;> rfl
  have empties : ∀ p, (Array.replicate members.length ([] : List Nat)).getD p [] = [] :=
    fun p => by
      simp only [Array.getD_eq_getD_getElem?, Array.getElem?_replicate]
      split <;> rfl
  have degree := fun q => inDegree_foldl edges q (Array.replicate members.length 0)
    fun e edge => by simpa using (inRange e edge).2
  have targets := fun p => successors_foldl edges p (Array.replicate members.length [])
    fun e edge => by simpa using (inRange e edge).1
  have start : KahnState.Invariant edges members.length
      { inDegree := edges.foldl (fun acc e => acc.modify e.2 (· + 1))
          (Array.replicate members.length 0),
        ready := (List.range members.length).filter fun q =>
          (edges.foldl (fun acc e => acc.modify e.2 (· + 1))
            (Array.replicate members.length 0)).getD q 0 == 0,
        emitted := [] } :=
    { size := by simp [(degree 0).2]
      degree := fun q => by
        rw [(degree q).1, zeros, Nat.zero_add]
        simp
      ready := fun q => by
        simp only [List.mem_filter, List.mem_range, beq_iff_eq, List.not_mem_nil,
          not_false_eq_true, and_true]
      sorted := List.pairwise_lt_range.filter _
      nodup := List.nodup_nil
      bounded := by simp
      placed := by simp }
  exact ⟨_, edges.foldl (fun acc e => acc.modify e.1 (· ++ [e.2])) (Array.replicate members.length []),
    start, rfl, fun p => by rw [(targets p).1, empties, List.nil_append], rfl⟩

/-- The finished run keeps the invariant, and the sort reads its answer off it. -/
theorem stableTopologicalSort_finished (culture : String) (parsers : Array (Descriptor ρ))
    (members : List Nat) :
    let descriptors := members.filterMap fun index => parsers[index]?
    ∃ finished : KahnState,
      finished.Invariant (positionEdges parsers members) members.length ∧
      (finished.ready = [] ∨ members.length ≤ finished.emitted.length) ∧
      stableTopologicalSort culture parsers members =
        if finished.emitted.length < members.length then
          .error (.orderingCycle culture
            (((List.range members.length).filter (finished.inDegree.getD · 0 > 0)).filterMap
              fun position => descriptors[position]?.map Descriptor.name))
        else .ok (finished.emitted.map fun position => members.getD position 0) := by
  obtain ⟨start, successors, inv, -, successorsEq, sortEq⟩ :=
    stableTopologicalSort_eq_run culture parsers members
  obtain ⟨finishedInv, finished⟩ := inv.run positionEdges_inRange successorsEq
  exact ⟨_, finishedInv, finished, sortEq⟩

/-! ## From positions to member indices -/

/-- The ordering graph on the members: an edge from `i` to `j` when the descriptor at `i` is
to be tried before the one at `j`. -/
def MemberEdge (parsers : Array (Descriptor ρ)) (members : List Nat) (i j : Nat) : Prop :=
  i ∈ members ∧ j ∈ members ∧
    ∃ a b, parsers[i]? = some a ∧ parsers[j]? = some b ∧ a.Precedes b

/-- The members' ordering graph has no cycle; a member that must precede itself is one. -/
def OrderingAcyclic (parsers : Array (Descriptor ρ)) (members : List Nat) : Prop :=
  ∀ i, ¬TransGen (MemberEdge parsers members) i i

open Classical in
/-- The names of the members that lie on a cycle of the ordering graph or after one, in the
order of the members. -/
noncomputable def cycleMemberNames (parsers : Array (Descriptor ρ)) (members : List Nat) :
    List String :=
  (members.filter fun i => OnOrAfterCycle (MemberEdge parsers members) i).filterMap
    fun i => parsers[i]?.map Descriptor.name

theorem getElem?_filterMap_of_isSome {α β : Type} {f : α → Option β} :
    ∀ {l : List α}, (∀ x ∈ l, (f x).isSome) → ∀ p : Nat, (l.filterMap f)[p]? = l[p]?.bind f
  | [], _, p => by simp
  | x :: rest, total, p => by
    obtain ⟨y, found⟩ := Option.isSome_iff_exists.1 (total x List.mem_cons_self)
    rw [List.filterMap_cons_some found]
    cases p with
    | zero => simp [found]
    | succ p =>
      simpa using getElem?_filterMap_of_isSome (fun x mem => total x (List.mem_cons_of_mem _ mem)) p

theorem map_getD_range (l : List Nat) : (List.range l.length).map (l.getD · 0) = l := by
  refine List.ext_getElem (by simp) fun k _ lt => ?_
  simp [List.getD_eq_getElem?_getD, List.getElem?_eq_getElem lt]

theorem filter_eq_map_range (l : List Nat) (keep : Nat → Bool) :
    l.filter keep = ((List.range l.length).filter fun p => keep (l.getD p 0)).map (l.getD · 0) := by
  conv_lhs => rw [← map_getD_range l]
  rw [List.filter_map]
  rfl

/-- A path along one relation, read through `members`, is a path along another. -/
theorem transGen_of_members {R S : Nat → Nat → Prop} {members : List Nat}
    (edge : ∀ p q, R p q → ∃ i j, members[p]? = some i ∧ members[q]? = some j ∧ S i j)
    {p q : Nat} (path : TransGen R p q) :
    ∃ i j, members[p]? = some i ∧ members[q]? = some j ∧ TransGen S i j := by
  induction path with
  | single step =>
    obtain ⟨i, j, atP, atQ, step⟩ := edge _ _ step
    exact ⟨i, j, atP, atQ, .single step⟩
  | tail _ step ih =>
    obtain ⟨i, j, atP, atMid, path⟩ := ih
    obtain ⟨j', k, atMid', atQ, step⟩ := edge _ _ step
    obtain rfl : j = j' := Option.some.inj (atMid.symm.trans atMid')
    exact ⟨i, k, atP, atQ, path.tail step⟩

/-- The converse reading, which needs the members to be distinct. -/
theorem transGen_to_positions {R S : Nat → Nat → Prop} {members : List Nat}
    (membersDistinct : members.Nodup)
    (edge : ∀ i j, S i j → ∃ p q, members[p]? = some i ∧ members[q]? = some j ∧ R p q)
    {i j : Nat} (path : TransGen S i j) :
    ∃ p q, members[p]? = some i ∧ members[q]? = some j ∧ TransGen R p q := by
  induction path with
  | single step =>
    obtain ⟨p, q, atP, atQ, step⟩ := edge _ _ step
    exact ⟨p, q, atP, atQ, .single step⟩
  | tail _ step ih =>
    obtain ⟨p, m, atP, atMid, path⟩ := ih
    obtain ⟨m', q, atMid', atQ, step⟩ := edge _ _ step
    obtain rfl := index_unique membersDistinct atMid atMid'
    exact ⟨p, q, atP, atQ, path.tail step⟩

section Members

variable {parsers : Array (Descriptor ρ)} {members : List Nat}

theorem member_descriptor (inRange : ∀ i ∈ members, i < parsers.size) (p : Nat) :
    (members.filterMap fun i => parsers[i]?)[p]? = members[p]?.bind fun i => parsers[i]? :=
  getElem?_filterMap_of_isSome (fun i mem => by simp [inRange i mem]) p

theorem member_names_nodup (distinct : (parsers.toList.map Descriptor.name).Nodup)
    (membersDistinct : members.Nodup) :
    ((members.filterMap fun i => parsers[i]?).map Descriptor.name).Nodup := by
  rw [List.map_filterMap]
  refine membersDistinct.filterMap fun i j name atI atJ => index_unique distinct
    (show (parsers.toList.map Descriptor.name)[i]? = some name by simpa using atI) ?_
  simpa using atJ

/-- The edges the sort computes between positions are the member edges, read through the
positions of the members. -/
theorem mem_positionEdges (distinct : (parsers.toList.map Descriptor.name).Nodup)
    (membersDistinct : members.Nodup) (inRange : ∀ i ∈ members, i < parsers.size) {p q : Nat} :
    (p, q) ∈ positionEdges parsers members ↔
      ∃ i j, members[p]? = some i ∧ members[q]? = some j ∧ MemberEdge parsers members i j := by
  rw [positionEdges, mem_orderingEdges_iff (member_names_nodup distinct membersDistinct),
    member_descriptor inRange, member_descriptor inRange]
  simp only [Option.bind_eq_some_iff]
  constructor
  · rintro ⟨a, b, ⟨i, atP, atI⟩, ⟨j, atQ, atJ⟩, precedes⟩
    exact ⟨i, j, atP, atQ, List.mem_of_getElem? atP, List.mem_of_getElem? atQ, a, b, atI, atJ,
      precedes⟩
  · rintro ⟨i, j, atP, atQ, _, _, a, b, atI, atJ, precedes⟩
    exact ⟨a, b, ⟨i, atP, atI⟩, ⟨j, atQ, atJ⟩, precedes⟩

theorem memberEdge_positions (distinct : (parsers.toList.map Descriptor.name).Nodup)
    (membersDistinct : members.Nodup) (inRange : ∀ i ∈ members, i < parsers.size) {i j : Nat}
    (edge : MemberEdge parsers members i j) :
    ∃ p q, members[p]? = some i ∧ members[q]? = some j ∧ (p, q) ∈ positionEdges parsers members := by
  obtain ⟨p, atP⟩ := List.mem_iff_getElem?.1 edge.1
  obtain ⟨q, atQ⟩ := List.mem_iff_getElem?.1 edge.2.1
  exact ⟨p, q, atP, atQ, (mem_positionEdges distinct membersDistinct inRange).2
    ⟨i, j, atP, atQ, edge⟩⟩

theorem acyclic_positions_iff (distinct : (parsers.toList.map Descriptor.name).Nodup)
    (membersDistinct : members.Nodup) (inRange : ∀ i ∈ members, i < parsers.size) :
    (∀ p, ¬TransGen (fun a b => (a, b) ∈ positionEdges parsers members) p p) ↔
      OrderingAcyclic parsers members := by
  constructor
  · intro acyclic i loop
    obtain ⟨p, q, atP, atQ, loop⟩ := transGen_to_positions membersDistinct
      (fun _ _ => memberEdge_positions distinct membersDistinct inRange) loop
    obtain rfl := index_unique membersDistinct atP atQ
    exact acyclic p loop
  · intro acyclic p loop
    obtain ⟨i, j, atP, atQ, loop⟩ := transGen_of_members
      (fun _ _ => (mem_positionEdges distinct membersDistinct inRange).1) loop
    obtain rfl : i = j := Option.some.inj (atP.symm.trans atQ)
    exact acyclic i loop

theorem onOrAfterCycle_positions_iff (distinct : (parsers.toList.map Descriptor.name).Nodup)
    (membersDistinct : members.Nodup) (inRange : ∀ i ∈ members, i < parsers.size) {p i : Nat}
    (atP : members[p]? = some i) :
    OnOrAfterCycle (fun a b => (a, b) ∈ positionEdges parsers members) p ↔
      OnOrAfterCycle (MemberEdge parsers members) i := by
  have up := fun a b => (mem_positionEdges distinct membersDistinct inRange (p := a) (q := b)).1
  have down := fun a b => memberEdge_positions distinct membersDistinct inRange (i := a) (j := b)
  constructor
  · rintro ⟨c, loop, reaches⟩
    obtain ⟨k, k', atC, atC', loop⟩ := transGen_of_members up loop
    obtain rfl : k = k' := Option.some.inj (atC.symm.trans atC')
    refine ⟨k, loop, ?_⟩
    rcases reflTransGen_iff_eq_or_transGen.1 reaches with rfl | path
    · obtain rfl : k = i := Option.some.inj (atC.symm.trans atP)
      exact .refl
    · obtain ⟨k'', j, atC'', atP', path⟩ := transGen_of_members up path
      obtain rfl : k = k'' := Option.some.inj (atC.symm.trans atC'')
      obtain rfl : j = i := Option.some.inj (atP'.symm.trans atP)
      exact path.to_reflTransGen
  · rintro ⟨c, loop, reaches⟩
    obtain ⟨r, r', atR, atR', loop⟩ := transGen_to_positions membersDistinct down loop
    obtain rfl := index_unique membersDistinct atR atR'
    refine ⟨r, loop, ?_⟩
    rcases reflTransGen_iff_eq_or_transGen.1 reaches with rfl | path
    · obtain rfl := index_unique membersDistinct atR atP
      exact .refl
    · obtain ⟨r'', q, atR'', atQ, path⟩ := transGen_to_positions membersDistinct down path
      obtain rfl := index_unique membersDistinct atR atR''
      obtain rfl := index_unique membersDistinct atQ atP
      exact path.to_reflTransGen

end Members

/-! ## What the sort returns -/

section Sorting

variable (culture : String) {parsers : Array (Descriptor ρ)} {members : List Nat}

/-- **A successful sort orders every member once.** -/
theorem stableTopologicalSort_perm {order : List Nat}
    (sorted : stableTopologicalSort culture parsers members = .ok order) : order.Perm members := by
  obtain ⟨finished, inv, _, sortEq⟩ := stableTopologicalSort_finished culture parsers members
  rw [sortEq] at sorted
  split at sorted
  · cases sorted
  · next full =>
    cases sorted
    have placed := (inv.emitted_perm (Nat.le_of_not_lt full)).map (members.getD · 0)
    rwa [map_getD_range] at placed

/-- **The sort succeeds exactly when the ordering graph has no cycle.** -/
theorem stableTopologicalSort_ok_iff (distinct : (parsers.toList.map Descriptor.name).Nodup)
    (membersDistinct : members.Nodup) (inRange : ∀ i ∈ members, i < parsers.size) :
    (∃ order, stableTopologicalSort culture parsers members = .ok order) ↔
      OrderingAcyclic parsers members := by
  obtain ⟨finished, inv, done, sortEq⟩ := stableTopologicalSort_finished culture parsers members
  rw [sortEq, ← acyclic_positions_iff distinct membersDistinct inRange,
    ← inv.full_iff_acyclic positionEdges_inRange done]
  by_cases short : finished.emitted.length < members.length
  · simp [short]
  · simpa [short] using Nat.le_of_not_lt short

/-- **A failed sort names the members on a cycle or after one.** -/
theorem stableTopologicalSort_eq_error_iff (distinct : (parsers.toList.map Descriptor.name).Nodup)
    (membersDistinct : members.Nodup) (inRange : ∀ i ∈ members, i < parsers.size)
    {e : RegistryError} :
    stableTopologicalSort culture parsers members = .error e ↔
      ¬OrderingAcyclic parsers members ∧
        e = .orderingCycle culture (cycleMemberNames parsers members) := by
  obtain ⟨finished, inv, done, sortEq⟩ := stableTopologicalSort_finished culture parsers members
  rw [sortEq, ← acyclic_positions_iff distinct membersDistinct inRange,
    ← inv.full_iff_acyclic positionEdges_inRange done]
  by_cases short : finished.emitted.length < members.length
  · have stuck := done.resolve_right (Nat.not_le_of_lt short)
    -- the positions left pending are the members on or after a cycle, in the members' order
    have names : ((List.range members.length).filter (finished.inDegree.getD · 0 > 0)).filterMap
        (fun position => (members.filterMap (parsers[·]?))[position]?.map Descriptor.name) =
          cycleMemberNames parsers members := by
      rw [cycleMemberNames, filter_eq_map_range members, List.filterMap_map]
      have atP : ∀ p ∈ List.range members.length, members[p]? = some (members.getD p 0) :=
        fun p mem => by simp [List.getD_eq_getElem?_getD, List.getElem?_eq_getElem
          (List.mem_range.1 mem)]
      rw [List.filter_congr fun p mem => decide_eq_decide.2 <|
        (inv.pending_iff positionEdges_inRange stuck (List.mem_range.1 mem)).trans
          (onOrAfterCycle_positions_iff distinct membersDistinct inRange (atP p mem))]
      refine List.filterMap_congr fun p mem => ?_
      rw [member_descriptor inRange, atP p (List.mem_filter.1 mem).1]
      rfl
    rw [if_pos short, names]
    simp [Nat.not_le_of_lt short, eq_comm]
  · rw [if_neg short]
    simp [Nat.le_of_not_lt short]

end Sorting

end Reckon

import Mathlib.Data.List.TakeWhile
import Mathlib.Data.List.DropRight
import Reckon.Operator

/-!
Contract: the grammar of operator chains, as a function of the chain.

A chain is a first operand followed by links, each an operator and the operand
after it. The documented grammar reads it by levels, loosest first:

    relational     := additive (relational-operator additive)*
    additive       := multiplicative (additive-operator multiplicative)*
    multiplicative := operand (multiplicative-operator operand)*

so a chain at level `p` is cut at its operators of precedence `p`, each piece
is read at the levels above, and the pieces are joined from the left
(`Grammar.tree`). The tree of a whole chain is `tree join (levelsFrom 1)`.

Owns: `Grammar.cut`, `Grammar.tree`, `Grammar.levelsFrom`, and what the
grouping does whatever the join is: one step of precedence climbing
(`tree_levelsFrom_cons`), joins that commute with a map (`tree_map`),
properties every join keeps (`tree_preserve`), relations two joins keep
(`tree_related`), absorbing values (`tree_absorbing`) and the rightmost operand
(`tree_right`). Also the links that bind at least at a level (`bindsAtLeast`),
the form in which a parser meets them (`tree_takeWhile_cons`).

Does not own: how a parser reads a chain; that is `Reckon.Proofs.Precedence`.
-/

namespace Reckon.Grammar

variable {α β : Type}

/-- Links cut at each operator of precedence `p`: the links before the first
such operator, and for each one the operand after it and the links up to the
next one. -/
def cut (p : Nat) : List (BinaryOperator × α) →
    List (BinaryOperator × α) × List (BinaryOperator × α × List (BinaryOperator × α))
  | [] => ([], [])
  | (op, y) :: rest =>
    if op.precedence = p then ([], (op, y, (cut p rest).1) :: (cut p rest).2)
    else ((op, y) :: (cut p rest).1, (cut p rest).2)

/-- The tree of a chain under the grammar whose levels, loosest first, are
`levels`: at level `p` the chain is cut at its operators of precedence `p`,
every piece is grouped by the levels above, and the pieces are joined from the
left. -/
def tree (join : α → BinaryOperator → α → α) : List Nat → α → List (BinaryOperator × α) → α
  | [], first, _ => first
  | p :: higher, first, links =>
    (cut p links).2.foldl (fun sofar piece => join sofar piece.1 (tree join higher piece.2.1 piece.2.2))
      (tree join higher first (cut p links).1)

/-- The levels from `p` to the tightest, loosest first. -/
def levelsFrom (p : Nat) : List Nat :=
  List.range' p (4 - p)

theorem levelsFrom_of_le {p : Nat} (inside : p ≤ 3) : levelsFrom p = p :: levelsFrom (p + 1) := by
  unfold levelsFrom
  rw [show 4 - p = (4 - (p + 1)) + 1 by omega, List.range'_succ]

theorem levelsFrom_of_lt {p : Nat} (beyond : 3 < p) : levelsFrom p = [] := by
  unfold levelsFrom
  rw [show 4 - p = 0 by omega, List.range'_zero]

/-! ### Cutting at one level -/

section Cut

variable {p : Nat}

@[simp] theorem cut_nil : cut p ([] : List (BinaryOperator × α)) = ([], []) := rfl

theorem cut_cons_of_eq {op : BinaryOperator} {y : α} {rest : List (BinaryOperator × α)}
    (atLevel : op.precedence = p) :
    cut p ((op, y) :: rest) = ([], (op, y, (cut p rest).1) :: (cut p rest).2) := by
  rw [cut, if_pos atLevel]

theorem cut_cons_of_ne {op : BinaryOperator} {y : α} {rest : List (BinaryOperator × α)}
    (notAtLevel : op.precedence ≠ p) :
    cut p ((op, y) :: rest) = ((op, y) :: (cut p rest).1, (cut p rest).2) := by
  rw [cut, if_neg notAtLevel]

/-- Links with no operator of precedence `p` stay in front of the first cut. -/
theorem cut_append_of_ne {front : List (BinaryOperator × α)} (rest : List (BinaryOperator × α))
    (noneAtLevel : ∀ link ∈ front, link.1.precedence ≠ p) :
    cut p (front ++ rest) = (front ++ (cut p rest).1, (cut p rest).2) := by
  induction front with
  | nil => rfl
  | cons link front inductionHypothesis =>
    obtain ⟨op, y⟩ := link
    have notAtLevel := noneAtLevel (op, y) List.mem_cons_self
    rw [List.cons_append, cut_cons_of_ne notAtLevel,
      inductionHypothesis fun other member => noneAtLevel other (List.mem_cons_of_mem _ member)]
    rfl

/-- What a cut is: the links before the first operator of precedence `p`,
then each such operator with its operand and the links up to the next one.
Put back together, the parts are the links. -/
theorem cut_spec (links : List (BinaryOperator × α)) :
    links = (cut p links).1 ++
        (cut p links).2.flatMap (fun piece => (piece.1, piece.2.1) :: piece.2.2) ∧
      (∀ link ∈ (cut p links).1, link.1.precedence ≠ p) ∧
      ∀ piece ∈ (cut p links).2,
        piece.1.precedence = p ∧ ∀ link ∈ piece.2.2, link.1.precedence ≠ p := by
  induction links with
  | nil => exact ⟨rfl, fun _ member => (List.not_mem_nil member).elim,
      fun _ member => (List.not_mem_nil member).elim⟩
  | cons link rest inductionHypothesis =>
    obtain ⟨op, y⟩ := link
    obtain ⟨reassembled, frontOff, piecesAt⟩ := inductionHypothesis
    by_cases atLevel : op.precedence = p
    · rw [cut_cons_of_eq atLevel]
      refine ⟨?_, fun _ member => (List.not_mem_nil member).elim, fun piece member => ?_⟩
      · simp only [List.nil_append, List.flatMap_cons]
        rw [List.cons_append, ← reassembled]
      · rcases List.mem_cons.mp member with rfl | later
        · exact ⟨atLevel, frontOff⟩
        · exact piecesAt piece later
    · rw [cut_cons_of_ne atLevel]
      refine ⟨?_, fun other member => ?_, piecesAt⟩
      · rw [List.cons_append, ← reassembled]
      · rcases List.mem_cons.mp member with rfl | later
        · exact atLevel
        · exact frontOff other later

/-- Where a link lands in a cut. -/
theorem mem_cut {links : List (BinaryOperator × α)} {link : BinaryOperator × α}
    (member : link ∈ links) :
    link ∈ (cut p links).1 ∨ ∃ piece ∈ (cut p links).2,
      link = (piece.1, piece.2.1) ∨ link ∈ piece.2.2 := by
  rw [(cut_spec links).1] at member
  rcases List.mem_append.mp member with front | inPieces
  · exact .inl front
  · obtain ⟨piece, isPiece, inPiece⟩ := List.mem_flatMap.mp inPieces
    exact .inr ⟨piece, isPiece, List.mem_cons.mp inPiece⟩

/-- A link of a cut is a link of the chain. -/
theorem cut_subset (links : List (BinaryOperator × α)) :
    (∀ link ∈ (cut p links).1, link ∈ links) ∧
      ∀ piece ∈ (cut p links).2,
        (piece.1, piece.2.1) ∈ links ∧ ∀ link ∈ piece.2.2, link ∈ links := by
  have reassembled := (cut_spec (p := p) links).1
  refine ⟨fun link member => ?_, fun piece member => ⟨?_, fun link inRun => ?_⟩⟩
  · rw [reassembled]
    exact List.mem_append_left _ member
  · rw [reassembled]
    exact List.mem_append_right _ (List.mem_flatMap.mpr ⟨piece, member, List.mem_cons_self⟩)
  · rw [reassembled]
    exact List.mem_append_right _
      (List.mem_flatMap.mpr ⟨piece, member, List.mem_cons_of_mem _ inRun⟩)

/-- A chain whose first operator is at level `p` has nothing before its first cut. -/
theorem cut_fst_eq_nil {links : List (BinaryOperator × α)}
    (startsAtLevel : ∀ link ∈ links.head?, link.1.precedence = p) : (cut p links).1 = [] := by
  cases links with
  | nil => rfl
  | cons link rest =>
    obtain ⟨op, y⟩ := link
    rw [cut_cons_of_eq (startsAtLevel (op, y) rfl)]

/-- A map of the operands commutes with cutting. -/
theorem cut_map (f : α → β) (links : List (BinaryOperator × α)) :
    cut p (links.map fun link => (link.1, f link.2)) =
      ((cut p links).1.map (fun link => (link.1, f link.2)),
        (cut p links).2.map fun piece =>
          (piece.1, f piece.2.1, piece.2.2.map fun link => (link.1, f link.2))) := by
  induction links with
  | nil => rfl
  | cons link rest inductionHypothesis =>
    obtain ⟨op, y⟩ := link
    by_cases atLevel : op.precedence = p
    · simp only [List.map_cons, List.map_nil, cut_cons_of_eq atLevel, inductionHypothesis]
    · simp only [List.map_cons, cut_cons_of_ne atLevel, inductionHypothesis]

end Cut

/-! ### Grouping -/

section Group

variable (join : α → BinaryOperator → α → α)

/-- A chain without links is its first operand. -/
@[simp] theorem tree_nil : ∀ (levels : List Nat) (first : α), tree join levels first [] = first
  | [], _ => rfl
  | p :: higher, first => by
    rw [tree, cut_nil, List.foldl_nil]
    exact tree_nil higher first

/-- One step of precedence climbing is a law of the grammar. In a chain whose
operators all bind at least at level `p`, the first operator joins the first
operand to the tree of the operand after it and of every following link that
binds more tightly, and the chain goes on from there. -/
theorem tree_levelsFrom_cons {p : Nat} {op : BinaryOperator} {y : α}
    {tighter rest : List (BinaryOperator × α)} (first : α) (atLeast : p ≤ op.precedence)
    (restAtLeast : ∀ link ∈ tighter ++ rest, p ≤ link.1.precedence)
    (bindTighter : ∀ link ∈ tighter, op.precedence < link.1.precedence)
    (restLooser : ∀ link ∈ rest.head?, link.1.precedence ≤ op.precedence) :
    tree join (levelsFrom p) first ((op, y) :: (tighter ++ rest)) =
      tree join (levelsFrom p)
        (join first op (tree join (levelsFrom (op.precedence + 1)) y tighter)) rest := by
  have tighterOff : ∀ {level}, level ≤ op.precedence →
      ∀ link ∈ tighter, link.1.precedence ≠ level := by
    intro level below link member
    have := bindTighter link member
    omega
  -- induction on how far the level of the operator is above `p`
  obtain ⟨distance, isDistance⟩ : ∃ distance, op.precedence - p = distance := ⟨_, rfl⟩
  induction distance generalizing p first rest with
  | zero =>
    have atLevel : op.precedence = p := by omega
    have inside : p ≤ 3 := atLevel ▸ op.precedence_le_three
    -- the rest starts at level `p`, so its cut has nothing in front
    have restFront : (cut p rest).1 = [] := by
      apply cut_fst_eq_nil
      intro link isHead
      have := restLooser link isHead
      have := restAtLeast link (List.mem_append_right _ (List.mem_of_mem_head? isHead))
      omega
    simp only [levelsFrom_of_le inside, tree, cut_cons_of_eq atLevel,
      cut_append_of_ne rest (tighterOff (show p ≤ op.precedence by omega)), restFront, List.append_nil, List.foldl_cons,
      tree_nil, atLevel]
  | succ distance inductionHypothesis =>
    have inside : p ≤ 3 := by have := op.precedence_le_three; omega
    obtain ⟨reassembled, frontOff, -⟩ := cut_spec (p := p) rest
    have frontFrom := (cut_subset (p := p) rest).1
    simp only [levelsFrom_of_le inside, tree, cut_cons_of_ne (show op.precedence ≠ p by omega),
      cut_append_of_ne rest (tighterOff atLeast)]
    -- one level up, the part of the rest before its first cut is what follows
    rw [inductionHypothesis first (by omega) ?_ ?_ (by omega)]
    · intro link member
      rcases List.mem_append.mp member with inTighter | inFront
      · have := bindTighter link inTighter
        omega
      · have := restAtLeast link (List.mem_append_right _ (frontFrom link inFront))
        have := frontOff link inFront
        omega
    · intro link isHead
      apply restLooser link
      rw [reassembled, List.head?_append, isHead]
      rfl

-- each level is joined from the left, and a tighter level first
example : tree (fun (a : Int) op b => if op = .subtract then a - b else a + b)
    (levelsFrom 1) 10 [(.subtract, 4), (.subtract, 3)] = 3 := by decide

example : tree (fun (a : Int) op b =>
      if op = .subtract then a - b else if op = .multiply then a * b else a + b)
    (levelsFrom 1) 2 [(.add, 3), (.multiply, 4), (.subtract, 1)] = 13 := by decide

/-- A map that carries one join to another carries the tree of a chain to the
tree of the mapped chain. -/
theorem tree_map {γ : Type} {joinγ : γ → BinaryOperator → γ → γ} (f : α → γ)
    (commutes : ∀ a op b, f (join a op b) = joinγ (f a) op (f b)) :
    ∀ (levels : List Nat) (first : α) (links : List (BinaryOperator × α)),
      f (tree join levels first links) =
        tree joinγ levels (f first) (links.map fun link => (link.1, f link.2))
  | [], _, _ => rfl
  | p :: higher, first, links => by
    rw [tree, tree, cut_map, ← tree_map f commutes higher first, List.foldl_map]
    refine (List.foldl_hom f fun sofar piece => ?_).symm
    rw [commutes, tree_map f commutes higher]

/-- A property that every join keeps, and that the first operand and the operand
of every link have, holds of the tree. -/
theorem tree_preserve (holds : α → Prop)
    (joinHolds : ∀ a op b, holds a → holds b → holds (join a op b)) :
    ∀ (levels : List Nat) (first : α) (links : List (BinaryOperator × α)), holds first →
      (∀ link ∈ links, holds link.2) → holds (tree join levels first links)
  | [], _, _, firstHolds, _ => firstHolds
  | p :: higher, first, links, firstHolds, linksHold => by
    obtain ⟨frontFrom, piecesFrom⟩ := cut_subset (p := p) links
    rw [tree]
    apply List.foldlRecOn
    · exact tree_preserve holds joinHolds higher first _ firstHolds
        fun link member => linksHold link (frontFrom link member)
    · intro sofar sofarHolds piece member
      obtain ⟨operandFrom, runFrom⟩ := piecesFrom piece member
      exact joinHolds _ _ _ sofarHolds (tree_preserve holds joinHolds higher _ _
        (linksHold _ operandFrom) fun link inRun => linksHold link (runFrom link inRun))

/-- A first operand that absorbs every join from the left is the tree. -/
theorem tree_of_leftAbsorbing (z : α) (absorbs : ∀ op b, join z op b = z) :
    ∀ (levels : List Nat) (links : List (BinaryOperator × α)), tree join levels z links = z
  | [], _ => rfl
  | p :: higher, links => by
    rw [tree, tree_of_leftAbsorbing z absorbs higher]
    apply List.foldlRecOn (motive := fun tree => tree = z) _ _ rfl
    intro sofar isZ piece _
    rw [isZ, absorbs]

/-- An operator of a chain whose levels are all listed is, inside a cut at `p`,
at one of the levels above. -/
theorem mem_higher_of_ne {p : Nat} {higher : List Nat} {link : BinaryOperator × α}
    (atLevels : link.1.precedence ∈ p :: higher) (off : link.1.precedence ≠ p) :
    link.1.precedence ∈ higher := by
  rcases List.mem_cons.mp atLevels with atP | inHigher
  · exact absurd atP off
  · exact inHigher

/-- A value that absorbs every join from both sides is the tree as soon as it is
the operand of a link, provided every operator is at one of the levels. -/
theorem tree_absorbing (z : α) (leftAbsorbs : ∀ op b, join z op b = z)
    (rightAbsorbs : ∀ a op, join a op z = z) :
    ∀ (levels : List Nat) (first : α) (links : List (BinaryOperator × α)),
      (∀ link ∈ links, link.1.precedence ∈ levels) → (∃ link ∈ links, link.2 = z) →
        tree join levels first links = z
  | [], _, _, atLevels, ⟨link, member, _⟩ => absurd (atLevels link member) List.not_mem_nil
  | p :: higher, first, links, atLevels, ⟨link, member, isZ⟩ => by
    obtain ⟨-, frontOff, piecesAt⟩ := cut_spec (p := p) links
    obtain ⟨frontFrom, piecesFrom⟩ := cut_subset (p := p) links
    have staysZ : ∀ pieces : List (BinaryOperator × α × List (BinaryOperator × α)),
        pieces.foldl (fun sofar piece => join sofar piece.1 (tree join higher piece.2.1 piece.2.2)) z
          = z := by
      intro pieces
      apply List.foldlRecOn (motive := fun tree => tree = z) _ _ rfl
      intro sofar isZ' piece _
      rw [isZ', leftAbsorbs]
    rw [tree]
    rcases mem_cut member with inFront | ⟨piece, isPiece, inPiece⟩
    · -- the absorbing operand is in front of the first cut
      rw [tree_absorbing z leftAbsorbs rightAbsorbs higher first _
        (fun other inFront' => mem_higher_of_ne (atLevels other (frontFrom other inFront'))
          (frontOff other inFront')) ⟨link, inFront, isZ⟩]
      exact staysZ _
    · -- the absorbing operand is in one piece, whose tree it then is
      have pieceIsZ : tree join higher piece.2.1 piece.2.2 = z := by
        rcases inPiece with isOperand | inRun
        · have operandIsZ : piece.2.1 = z := by rw [← isZ, isOperand]
          rw [operandIsZ]
          exact tree_of_leftAbsorbing join z leftAbsorbs higher _
        · exact tree_absorbing z leftAbsorbs rightAbsorbs higher _ _
            (fun other inRun' => mem_higher_of_ne
              (atLevels other ((piecesFrom piece isPiece).2 other inRun'))
              ((piecesAt piece isPiece).2 other inRun')) ⟨link, inRun, isZ⟩
      obtain ⟨before, after, isSplit⟩ := List.append_of_mem isPiece
      rw [isSplit, List.foldl_append, List.foldl_cons]
      simp only [pieceIsZ, rightAbsorbs]
      exact staysZ after

/-- A relation that every pair of joins keeps holds between the trees of two
chains whose operands are related link by link. -/
theorem tree_related {γ : Type} {joinγ : γ → BinaryOperator → γ → γ} (related : α → γ → Prop)
    (joinsRelated : ∀ a c op a' c', related a c → related a' c' →
      related (join a op a') (joinγ c op c'))
    (levels : List Nat) {first : α} {firstγ : γ} {links : List (BinaryOperator × α × γ)}
    (firstRelated : related first firstγ) (linksRelated : ∀ link ∈ links, related link.2.1 link.2.2) :
    related (tree join levels first (links.map fun link => (link.1, link.2.1)))
      (tree joinγ levels firstγ (links.map fun link => (link.1, link.2.2))) := by
  -- group the pairs, then read off each side
  let pairJoin : α × γ → BinaryOperator → α × γ → α × γ :=
    fun a op b => (join a.1 op b.1, joinγ a.2 op b.2)
  have paired := tree_preserve pairJoin (fun pair => related pair.1 pair.2)
    (fun a op b aRelated bRelated => joinsRelated _ _ op _ _ aRelated bRelated) levels
    (first, firstγ) (links.map fun link => (link.1, link.2)) firstRelated
    (fun link member => by
      obtain ⟨original, isOriginal, rfl⟩ := List.mem_map.mp member
      exact linksRelated original isOriginal)
  rw [tree_map pairJoin Prod.fst (fun _ _ _ => rfl), tree_map pairJoin Prod.snd (fun _ _ _ => rfl),
    List.map_map, List.map_map] at paired
  exact paired

end Group

/-- The levels from `p` hold exactly the operators that bind at least at `p`. -/
theorem precedence_mem_levelsFrom {op : BinaryOperator} {p : Nat} :
    op.precedence ∈ levelsFrom p ↔ p ≤ op.precedence := by
  have := op.precedence_le_three
  simp only [levelsFrom, List.mem_range'_1]
  omega

theorem one_le_precedence (op : BinaryOperator) : 1 ≤ op.precedence := by
  cases op <;> decide

/-- Every operator is at one of the levels from 1. -/
theorem precedence_mem_levelsFrom_one (op : BinaryOperator) : op.precedence ∈ levelsFrom 1 :=
  precedence_mem_levelsFrom.mpr (one_le_precedence op)

/-- With the join that keeps its right side, the tree of a chain is its last
operand, provided every operator is at one of the levels. -/
theorem tree_right :
    ∀ (levels : List Nat) (first : α) (links : List (BinaryOperator × α)),
      (∀ link ∈ links, link.1.precedence ∈ levels) →
        tree (fun _ _ right => right) levels first links = (links.getLast?.map Prod.snd).getD first
  | [], first, links, atLevels => by
    cases links with
    | nil => rfl
    | cons link _ => exact absurd (atLevels link List.mem_cons_self) List.not_mem_nil
  | p :: higher, first, links, atLevels => by
    obtain ⟨reassembled, frontOff, piecesAt⟩ := cut_spec (p := p) links
    obtain ⟨frontFrom, piecesFrom⟩ := cut_subset (p := p) links
    rw [tree]
    generalize cut p links = parts at reassembled frontOff piecesAt frontFrom piecesFrom ⊢
    obtain ⟨front, pieces⟩ := parts
    subst reassembled
    rcases List.eq_nil_or_concat pieces with rfl | ⟨before, last, rfl⟩
    · -- no operator at level `p`: the chain is its front
      rw [List.foldl_nil, tree_right higher first _ fun link member =>
        mem_higher_of_ne (atLevels link (frontFrom link member)) (frontOff link member),
        List.flatMap_nil, List.append_nil]
    · -- the last piece ends the chain
      have lastIn : last ∈ before.concat last := by
        rw [List.concat_eq_append]
        exact List.mem_concat_self
      rw [List.concat_eq_append, List.foldl_append, List.foldl_cons, List.foldl_nil,
        tree_right higher _ _ fun link member =>
          mem_higher_of_ne (atLevels link ((piecesFrom last lastIn).2 link member))
            ((piecesAt last lastIn).2 link member),
        List.flatMap_append, List.flatMap_singleton, List.getLast?_append,
        List.getLast?_append, List.getLast?_cons]
      cases last.2.2.getLast? <;> rfl

/-! ### Reading a chain level by level -/

/-- Whether a link binds at least at level `p`. -/
def bindsAtLeast (p : Nat) (link : BinaryOperator × α) : Bool :=
  decide (p ≤ link.1.precedence)

/-- The links that bind at least at a looser level are those that bind at a
tighter one, then those after them that bind at the looser one. -/
theorem takeWhile_bindsAtLeast_split {p q : Nat} (looser : p ≤ q)
    (links : List (BinaryOperator × α)) :
    links.takeWhile (bindsAtLeast p) = links.takeWhile (bindsAtLeast q) ++
      (links.dropWhile (bindsAtLeast q)).takeWhile (bindsAtLeast p) := by
  induction links with
  | nil => rfl
  | cons link rest inductionHypothesis =>
    by_cases tight : bindsAtLeast q link = true
    · have loose : bindsAtLeast p link = true := by
        simp only [bindsAtLeast, decide_eq_true_eq] at tight ⊢
        omega
      rw [List.takeWhile_cons_of_pos loose, List.takeWhile_cons_of_pos tight,
        List.dropWhile_cons_of_pos tight, inductionHypothesis, List.cons_append]
    · rw [List.takeWhile_cons_of_neg tight, List.dropWhile_cons_of_neg tight, List.nil_append]

theorem dropWhile_bindsAtLeast_split {p q : Nat} (looser : p ≤ q)
    (links : List (BinaryOperator × α)) :
    (links.dropWhile (bindsAtLeast q)).dropWhile (bindsAtLeast p) =
      links.dropWhile (bindsAtLeast p) := by
  induction links with
  | nil => rfl
  | cons link rest inductionHypothesis =>
    by_cases tight : bindsAtLeast q link = true
    · have loose : bindsAtLeast p link = true := by
        simp only [bindsAtLeast, decide_eq_true_eq] at tight ⊢
        omega
      rw [List.dropWhile_cons_of_pos tight, inductionHypothesis, List.dropWhile_cons_of_pos loose]
    · rw [List.dropWhile_cons_of_neg tight]

/-- What is left after the links that bind at `p` starts with one that does not. -/
theorem takeWhile_dropWhile_bindsAtLeast (p : Nat) (links : List (BinaryOperator × α)) :
    (links.dropWhile (bindsAtLeast p)).takeWhile (bindsAtLeast p) = [] :=
  List.append_right_eq_self.mp (takeWhile_bindsAtLeast_split (Nat.le_refl p) links).symm

/-- Every link binds at least at level 1. -/
theorem takeWhile_bindsAtLeast_one (links : List (BinaryOperator × α)) :
    links.takeWhile (bindsAtLeast 1) = links :=
  List.takeWhile_eq_self_iff.mpr fun link _ => by
    simpa only [bindsAtLeast, decide_eq_true_eq] using one_le_precedence link.1

/-- One step of precedence climbing on the links that bind at least at `p`: the
first operator takes as its right side the operand after it with the links that
bind more tightly, and grouping goes on with the links after those. -/
theorem tree_takeWhile_cons (join : α → BinaryOperator → α → α) {p : Nat} {op : BinaryOperator}
    {y : α} {rest : List (BinaryOperator × α)} (first : α) (atLeast : p ≤ op.precedence) :
    tree join (levelsFrom p) first (((op, y) :: rest).takeWhile (bindsAtLeast p)) =
      tree join (levelsFrom p)
        (join first op (tree join (levelsFrom (op.precedence + 1)) y
          (rest.takeWhile (bindsAtLeast (op.precedence + 1)))))
        ((rest.dropWhile (bindsAtLeast (op.precedence + 1))).takeWhile (bindsAtLeast p)) := by
  have binds : bindsAtLeast p (op, y) = true := by
    simpa only [bindsAtLeast, decide_eq_true_eq] using atLeast
  have split := takeWhile_bindsAtLeast_split (show p ≤ op.precedence + 1 by omega) rest
  rw [List.takeWhile_cons_of_pos binds, split]
  apply tree_levelsFrom_cons join first atLeast
  · intro link member
    have := List.mem_takeWhile_imp (split ▸ member)
    simpa only [bindsAtLeast, decide_eq_true_eq] using this
  · intro link member
    have := List.mem_takeWhile_imp member
    simp only [bindsAtLeast, decide_eq_true_eq] at this
    omega
  · -- the links after the tighter ones start with one that does not bind more tightly
    intro link isHead
    have notTighter := List.head?_dropWhile_not (bindsAtLeast (op.precedence + 1)) rest
    generalize rest.dropWhile (bindsAtLeast (op.precedence + 1)) = after at isHead notTighter
    cases after with
    | nil => cases isHead
    | cons next later =>
      have isNext : next = link := by
        by_cases bindsNext : bindsAtLeast p next = true
        · rw [List.takeWhile_cons_of_pos bindsNext, List.head?_cons] at isHead
          exact Option.some.inj isHead
        · rw [List.takeWhile_cons_of_neg bindsNext] at isHead
          cases isHead
      subst isNext
      simp only [List.head?_cons, bindsAtLeast, decide_eq_false_iff_not] at notTighter
      omega

end Reckon.Grammar

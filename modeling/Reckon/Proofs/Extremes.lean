import Reckon.Proofs.FloatOrder
import Reckon.Proofs.Arithmetic
import Reckon.Builtin

/-!
Contract: `min` and `max` return the first extreme argument, as it was given.

The scan reads every argument as a real and keeps the best one so far, replacing it only by
an argument strictly better (`Builtin.Prefers`). What it keeps after each argument is the
first extreme of what it has read (`Builtin.ScanHolds`): no argument read is preferred to
it, and none before it is equal to it as a real. One step keeps that because comparison of
doubles is transitive and respects `==` (`Reckon.Proofs.FloatOrder`); a whole scan keeps it
by induction on the arguments left (`Builtin.scanExtreme_holds`). So a call that succeeds
returns one of its arguments unchanged, an integer staying an integer, extreme among them
and the first of those equal to it (`Builtin.IsFirstExtreme`).

The scan fails as soon as an argument is not a real. An integer is a real only up to a
magnitude of `2^53 - 1`, so on integers alone `min` and `max` give the least and the greatest
integer where every argument is within that bound, and an overflow wherever one is beyond
it, however small the others are.

Owns: `Builtin.Prefers`, `Builtin.ExtremeAt`, `Builtin.IsFirstExtreme`, `Builtin.ScanHolds`.
Does not own: the order of doubles and the doubles of integers (`Reckon.Proofs.FloatOrder`).
-/

set_option autoImplicit false

namespace Reckon

open Decimal

namespace Builtin

/-- Whether `min` (`pickLess`) or `max` takes an argument worth `value` over the best one so
far, worth `current`: only when it is strictly better. -/
def Prefers (pickLess : Bool) (value current : Float) : Prop :=
  if pickLess then value < current else current < value

section Prefers

variable {pickLess : Bool} {u v w : Float}

/-- The comparison the scan makes is `Prefers`. -/
theorem better_eq_true_iff :
    (if pickLess then decide (w < v) else decide (w > v)) = true ↔ Prefers pickLess w v := by
  cases pickLess <;> simp [Prefers]

theorem prefers_trans (first : Prefers pickLess u w) (second : Prefers pickLess w v) :
    Prefers pickLess u v := by
  cases pickLess
  · exact float_lt_trans (second : v < w) (first : w < u)
  · exact float_lt_trans (first : u < w) (second : w < v)

theorem not_prefers_of_prefers (better : Prefers pickLess w v) : ¬ Prefers pickLess v w := by
  cases pickLess
  · exact float_lt_asymm (better : v < w)
  · exact float_lt_asymm (better : w < v)

theorem not_prefers_self : ¬ Prefers pickLess v v :=
  fun better => not_prefers_of_prefers better better

/-- An argument equal to one that is preferred is preferred too. -/
theorem prefers_of_beq (equal : (u == w) = true) (better : Prefers pickLess w v) :
    Prefers pickLess u v := by
  cases pickLess
  · exact float_lt_of_lt_of_beq (better : v < w) (float_beq_symm equal)
  · exact float_lt_of_beq_of_lt equal (better : w < v)

/-- No argument is equal to one it is preferred to. -/
theorem beq_false_of_prefers (better : Prefers pickLess w v) : (v == w) = false := by
  cases pickLess
  · exact (float_beq_false_of_lt (better : v < w)).1
  · exact (float_beq_false_of_lt (better : w < v)).2

end Prefers

/-- The argument `r`, worth `v` as a real, stands between `before` and `after` as the first
extreme: no argument is preferred to it, and none before it is equal to it as a real. -/
structure ExtremeAt (pickLess : Bool) (line : Nat) (before : List Value) (r : Value) (v : Float)
    (after : List Value) : Prop where
  worth : r.asReal line = .ok v
  earlier : ∀ a ∈ before, ∃ w, a.asReal line = .ok w ∧ ¬ Prefers pickLess w v ∧ (w == v) = false
  later : ∀ a ∈ after, ∃ w, a.asReal line = .ok w ∧ ¬ Prefers pickLess w v

/-- `r` is the first extreme of `args`, for `min` (`pickLess`) or `max`: one of the arguments,
as it was given, to which no argument is preferred and which no earlier argument equals. -/
def IsFirstExtreme (pickLess : Bool) (line : Nat) (args : List Value) (r : Value) : Prop :=
  ∃ before v after, args = before ++ r :: after ∧ ExtremeAt pickLess line before r v after

/-- What the scan keeps after reading `done`: nothing before the first argument, and then the
first extreme of what it read, with its worth. -/
def ScanHolds (pickLess : Bool) (line : Nat) (done : List Value) : Option (Value × Float) → Prop
  | none => done = []
  | some (r, v) => ∃ before after, done = before ++ r :: after ∧
      ExtremeAt pickLess line before r v after

section Scan

variable {pickLess : Bool} {line : Nat}

/-- An argument read after the extreme and not preferred to it leaves it the extreme. -/
theorem ExtremeAt.keep {before after : List Value} {r a : Value} {v w : Float}
    (extreme : ExtremeAt pickLess line before r v after) (converted : a.asReal line = .ok w)
    (notBetter : ¬ Prefers pickLess w v) : ExtremeAt pickLess line before r v (after ++ [a]) where
  worth := extreme.worth
  earlier := extreme.earlier
  later b member := by
    rcases List.mem_append.1 member with old | new
    · exact extreme.later b old
    · rw [List.mem_singleton.1 new]
      exact ⟨w, converted, notBetter⟩

/-- An argument preferred to the extreme becomes the extreme of everything read: what was
below the old one is below the new one, by transitivity, and nothing read equals it. -/
theorem ExtremeAt.replace {before after : List Value} {r a : Value} {v w : Float}
    (extreme : ExtremeAt pickLess line before r v after) (converted : a.asReal line = .ok w)
    (better : Prefers pickLess w v) : ExtremeAt pickLess line (before ++ r :: after) a w [] where
  worth := converted
  earlier b member := by
    -- an argument `b` worth `u`, not preferred to the old extreme, is neither preferred nor
    -- equal to the new one
    have beaten : ∀ u, ¬ Prefers pickLess u v → ¬ Prefers pickLess u w ∧ (u == w) = false :=
      fun u notBetter => ⟨fun above => notBetter (prefers_trans above better),
        Bool.eq_false_iff.2 fun equal => notBetter (prefers_of_beq equal better)⟩
    rcases List.mem_append.1 member with old | rest
    · obtain ⟨u, worthU, notBetter, -⟩ := extreme.earlier b old
      exact ⟨u, worthU, beaten u notBetter⟩
    rcases List.mem_cons.1 rest with same | later
    · rw [same]
      exact ⟨v, extreme.worth, not_prefers_of_prefers better, beq_false_of_prefers better⟩
    · obtain ⟨u, worthU, notBetter⟩ := extreme.later b later
      exact ⟨u, worthU, beaten u notBetter⟩
  later _ member := nomatch member

/-- One argument read as a real keeps the scan's invariant. -/
theorem ScanHolds.step {done : List Value} {best : Option (Value × Float)} {a : Value} {w : Float}
    (holds : ScanHolds pickLess line done best) (converted : a.asReal line = .ok w) :
    ScanHolds pickLess line (done ++ [a])
      (if (match best with
          | none => true
          | some (_, current) => if pickLess then decide (w < current) else decide (w > current))
        then some (a, w) else best) := by
  cases best with
  | none =>
    -- the first argument is the extreme of itself
    change done = [] at holds
    subst holds
    show ScanHolds pickLess line [a] (some (a, w))
    exact ⟨[], [], rfl, converted, (fun _ member => nomatch member),
      (fun _ member => nomatch member)⟩
  | some found =>
    obtain ⟨r, v⟩ := found
    obtain ⟨before, after, rfl, extreme⟩ := holds
    by_cases better : Prefers pickLess w v
    · rw [if_pos (better_eq_true_iff.2 better)]
      exact ⟨before ++ r :: after, [], by simp, extreme.replace converted better⟩
    · rw [if_neg (mt better_eq_true_iff.1 better)]
      exact ⟨before, after ++ [a], by simp, extreme.keep converted better⟩

/-- A whole scan keeps the invariant: what it returns is the first extreme of everything
read, the arguments before the scan included. -/
theorem scanExtreme_holds (rest : List Value) :
    ∀ {done : List Value} {best result : Option (Value × Float)},
      ScanHolds pickLess line done best → scanExtreme pickLess line best rest = .ok result →
      ScanHolds pickLess line (done ++ rest) result := by
  induction rest with
  | nil =>
    intro done best result holds scanned
    cases scanned
    simpa using holds
  | cons a rest ih =>
    intro done best result holds scanned
    cases converted : a.asReal line with
    | error e =>
      simp only [scanExtreme, converted] at scanned
      cases scanned
    | ok w =>
      simp only [scanExtreme, converted] at scanned
      have next := ih (holds.step converted) scanned
      simpa using next

/-- Where every argument is a real, the scan reads them all. -/
theorem scanExtreme_ok_of_converted (rest : List Value)
    (converted : ∀ a ∈ rest, ∃ w, a.asReal line = .ok w) :
    ∀ best : Option (Value × Float), ∃ result, scanExtreme pickLess line best rest = .ok result := by
  induction rest with
  | nil => exact fun best => ⟨best, rfl⟩
  | cons a rest ih =>
    intro best
    obtain ⟨w, worth⟩ := converted a (List.mem_cons_self ..)
    simp only [scanExtreme, worth]
    exact ih (fun b member => converted b (List.mem_cons_of_mem a member)) _

/-- An argument that is not a real ends the scan with its error, when every argument before
it fails the same way. Integers beyond `2^53 - 1` all fail with one overflow. -/
theorem scanExtreme_error_of_failed (rest : List Value) {e : RuntimeError}
    (each : ∀ a ∈ rest, ∀ e', a.asReal line = .error e' → e' = e)
    (failed : ∃ a ∈ rest, ∃ e', a.asReal line = .error e') :
    ∀ best : Option (Value × Float), scanExtreme pickLess line best rest = .error e := by
  induction rest with
  | nil =>
    obtain ⟨_, member, -⟩ := failed
    exact nomatch member
  | cons a rest ih =>
    intro best
    cases converted : a.asReal line with
    | error e' =>
      simp only [scanExtreme, converted]
      rw [each a (List.mem_cons_self ..) e' converted]
      rfl
    | ok w =>
      simp only [scanExtreme, converted]
      obtain ⟨b, member, e', failedB⟩ := failed
      rcases List.mem_cons.1 member with same | later
      · rw [same, converted] at failedB
        cases failedB
      · exact ih (fun c inRest => each c (List.mem_cons_of_mem a inRest)) ⟨b, later, e', failedB⟩ _

/-- What `min` or `max` returns is the first extreme of its arguments. -/
theorem extreme_isFirstExtreme {args : List Value} {r : Value}
    (found : extreme pickLess args line = .ok r) : IsFirstExtreme pickLess line args r := by
  cases scanned : scanExtreme pickLess line none args with
  | error e =>
    simp only [extreme, scanned] at found
    cases found
  | ok result =>
    have holds := scanExtreme_holds args (show ScanHolds pickLess line [] none from rfl) scanned
    cases result with
    | none =>
      simp only [extreme, scanned] at found
      cases found
    | some best =>
      obtain ⟨r', v⟩ := best
      simp only [extreme, scanned] at found
      cases found
      obtain ⟨before, after, split, extreme⟩ := holds
      exact ⟨before, v, after, by simpa using split, extreme⟩

/-- Where every argument is a real and there is one, `min` and `max` return. -/
theorem extreme_ok_of_converted {args : List Value} (nonempty : args ≠ [])
    (converted : ∀ a ∈ args, ∃ w, a.asReal line = .ok w) :
    ∃ r, extreme pickLess args line = .ok r := by
  obtain ⟨result, scanned⟩ : ∃ result, scanExtreme pickLess line none args = .ok result :=
    scanExtreme_ok_of_converted args converted none
  have holds := scanExtreme_holds args (show ScanHolds pickLess line [] none from rfl) scanned
  cases result with
  | none => exact absurd (by simpa [ScanHolds] using holds) nonempty
  | some best =>
    obtain ⟨r, v⟩ := best
    exact ⟨r, by simp only [extreme, scanned]; rfl⟩

/-- The first extreme is one of the arguments, and no argument is preferred to it. -/
theorem IsFirstExtreme.unbeaten {args : List Value} {r : Value}
    (first : IsFirstExtreme pickLess line args r) :
    r ∈ args ∧ ∃ v, r.asReal line = .ok v ∧
      ∀ a ∈ args, ∃ w, a.asReal line = .ok w ∧ ¬ Prefers pickLess w v := by
  obtain ⟨before, v, after, rfl, extreme⟩ := first
  refine ⟨by simp, v, extreme.worth, fun a member => ?_⟩
  rcases List.mem_append.1 member with old | rest
  · obtain ⟨w, worth, notBetter, -⟩ := extreme.earlier a old
    exact ⟨w, worth, notBetter⟩
  rcases List.mem_cons.1 rest with same | later
  · exact ⟨v, same ▸ extreme.worth, not_prefers_self⟩
  · exact extreme.later a later

end Scan

/-! ### Integers -/

section Integers

variable (pickLess : Bool) (line : Nat) {ns : List Int64}

/-- Within `2^53 - 1`, the first extreme of integers is the least (`min`) or the greatest
of them, and an integer. -/
theorem extreme_integers_of_exact (nonempty : ns ≠ [])
    (exact : ∀ n ∈ ns, n.toInt.natAbs ≤ maxExactInteger) :
    ∃ m ∈ ns, extreme pickLess (ns.map .integer) line = .ok (.integer m) ∧
      ∀ n ∈ ns, ¬ (if pickLess then n.toInt < m.toInt else m.toInt < n.toInt) := by
  have worth : ∀ n ∈ ns, (Value.integer n).asReal line = .ok (floatOfInt n.toInt) :=
    fun n member => BinaryOperator.asReal_integer_of_le line (exact n member)
  have converted : ∀ a ∈ ns.map Value.integer, ∃ w, a.asReal line = .ok w := by
    intro a member
    obtain ⟨n, inList, rfl⟩ := List.mem_map.1 member
    exact ⟨_, worth n inList⟩
  obtain ⟨r, found⟩ : ∃ r, extreme pickLess (ns.map .integer) line = .ok r :=
    extreme_ok_of_converted (by simpa using nonempty) converted
  obtain ⟨inArgs, v, worthR, unbeaten⟩ := (extreme_isFirstExtreme found).unbeaten
  obtain ⟨m, inList, rfl⟩ := List.mem_map.1 inArgs
  -- the winner's worth is the double of its integer
  rw [worth m inList] at worthR
  cases worthR
  refine ⟨m, inList, found, fun n member => ?_⟩
  obtain ⟨w, worthN, notBetter⟩ := unbeaten _ (List.mem_map_of_mem member)
  rw [worth n member] at worthN
  cases worthN
  cases pickLess
  · exact fun above => notBetter ((floatOfInt_lt_floatOfInt_iff (exact m inList)
      (exact n member)).2 above)
  · exact fun below => notBetter ((floatOfInt_lt_floatOfInt_iff (exact n member)
      (exact m inList)).2 below)

/-- An integer beyond `2^53 - 1` among the arguments makes `min` and `max` overflow. -/
theorem extreme_integers_of_beyond (beyond : ∃ n ∈ ns, maxExactInteger < n.toInt.natAbs) :
    extreme pickLess (ns.map .integer) line = .error (.overflow line) := by
  have scanned : scanExtreme pickLess line none (ns.map .integer) = .error (.overflow line) := by
    apply scanExtreme_error_of_failed
    · -- an integer that is not a real is an overflow
      intro a member e failed
      obtain ⟨n, -, rfl⟩ := List.mem_map.1 member
      by_cases fits : n.toInt.natAbs ≤ maxExactInteger
      · rw [BinaryOperator.asReal_integer_of_le line fits] at failed
        cases failed
      · rw [BinaryOperator.asReal_integer_of_lt line (Nat.lt_of_not_le fits)] at failed
        cases failed
        rfl
    · obtain ⟨n, member, outside⟩ := beyond
      exact ⟨_, List.mem_map_of_mem member, _, BinaryOperator.asReal_integer_of_lt line outside⟩
  simp only [extreme, scanned]
  rfl

end Integers

theorem ofName_min : ofName? "min" = some min := by decide

theorem ofName_max : ofName? "max" = some max := by decide

end Builtin

open Builtin

/-- Called by a name of `min` (`pickLess`) or `max`, the function runs its scan when it is
given an argument, and fails on the count when it is given none. -/
theorem callBuiltin_extreme {name : String} (pickLess : Bool)
    (named : ofName? name = some (if pickLess then min else max)) (args : List Value)
    (line : Nat) :
    callBuiltin name args line =
      if args = [] then .error (.argumentCountMismatch name 1 0 line)
      else extreme pickLess args line := by
  cases args with
  | nil => cases pickLess <;> simp [callBuiltin, named, accepts, isVariadic, arity]
  | cons a rest => cases pickLess <;> simp [callBuiltin, named, accepts, isVariadic, arity, evaluate]

/-- `min` and `max` return the first extreme argument. Every call that succeeds returns one
of its arguments as it was given, so an integer stays an integer: one to which no argument
is preferred as a real, and which no earlier argument equals. On integers alone, each within
`2^53 - 1` in magnitude, that is the least and the greatest integer; one integer beyond that
bound makes both overflow, since every argument is compared as a real. -/
theorem min_and_max_return_the_first_extreme_argument (line : Nat) :
    (∀ args r, callBuiltin "min" args line = .ok r → IsFirstExtreme true line args r) ∧
    (∀ args r, callBuiltin "max" args line = .ok r → IsFirstExtreme false line args r) ∧
    (∀ ns : List Int64, ns ≠ [] → (∀ n ∈ ns, n.toInt.natAbs ≤ maxExactInteger) →
      (∃ m ∈ ns, callBuiltin "min" (ns.map .integer) line = .ok (.integer m) ∧
          ∀ n ∈ ns, m.toInt ≤ n.toInt) ∧
        ∃ m ∈ ns, callBuiltin "max" (ns.map .integer) line = .ok (.integer m) ∧
          ∀ n ∈ ns, n.toInt ≤ m.toInt) ∧
    ∀ ns : List Int64, (∃ n ∈ ns, maxExactInteger < n.toInt.natAbs) →
      callBuiltin "min" (ns.map .integer) line = .error (.overflow line) ∧
        callBuiltin "max" (ns.map .integer) line = .error (.overflow line) := by
  refine ⟨fun args r called => ?_, fun args r called => ?_, fun ns nonempty exact => ?_,
    fun ns beyond => ?_⟩
  · -- with no argument the call fails, so it ran the scan
    rw [callBuiltin_extreme true ofName_min] at called
    split at called
    · cases called
    · exact extreme_isFirstExtreme called
  · rw [callBuiltin_extreme false ofName_max] at called
    split at called
    · cases called
    · exact extreme_isFirstExtreme called
  · have mapped : ns.map Value.integer ≠ [] := by simpa using nonempty
    obtain ⟨least, inList, found, lowest⟩ := extreme_integers_of_exact true line nonempty exact
    obtain ⟨greatest, inList', found', highest⟩ :=
      extreme_integers_of_exact false line nonempty exact
    rw [callBuiltin_extreme true ofName_min, callBuiltin_extreme false ofName_max,
      if_neg mapped, if_neg mapped]
    refine ⟨⟨least, inList, found, fun n member => ?_⟩,
      ⟨greatest, inList', found', fun n member => ?_⟩⟩
    · have := lowest n member
      simp only [if_true] at this
      omega
    · have := highest n member
      simp only [Bool.false_eq_true, if_false] at this
      omega
  · have mapped : ns.map Value.integer ≠ [] := by
      obtain ⟨n, member, -⟩ := beyond
      exact List.ne_nil_of_mem (List.mem_map_of_mem member)
    rw [callBuiltin_extreme true ofName_min, callBuiltin_extreme false ofName_max,
      if_neg mapped, if_neg mapped]
    exact ⟨extreme_integers_of_beyond true line beyond, extreme_integers_of_beyond false line beyond⟩

/-- The least of integers fails where one of them is `2^53`: compared as a real, it
overflows, though integers compare exactly elsewhere. -/
theorem min_of_two_to_the_fifty_three_overflows :
    callBuiltin "min" [.integer 9007199254740992] 1 = .error (.overflow 1) := by
  rw [callBuiltin_extreme true ofName_min, if_neg (by simp)]
  show extreme true ([9007199254740992].map .integer) 1 = _
  exact extreme_integers_of_beyond true 1 ⟨_, List.mem_singleton_self _, by decide⟩

end Reckon

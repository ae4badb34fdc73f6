import Reckon.Registry.Descriptor
import Reckon.Error

/-!
Ordering the parsers of one culture: the stable topological sort.

The members are positions in the registration order. A descriptor's `before`
name gives an edge from it to the named member and an `after` name an edge
from the named member to it; names of non-members are ignored, and repeated
names give repeated edges. Kahn's algorithm then emits, at every step, the
least position whose incoming edges all come from emitted members, so the
result is the lexicographically least order that respects every edge, and
registration order where there are no edges. If members remain, they lie on or
after a cycle, and the sort fails with those members in registration order.
-/

namespace Reckon

variable {ρ : Type}

/-- Insert into an increasing list. -/
def insertIncreasing (x : Nat) : List Nat → List Nat
  | [] => [x]
  | y :: rest => if x ≤ y then x :: y :: rest else y :: insertIncreasing x rest

/-- The edges between member positions, in the order the descriptors state
them: each member's `before` edges, then its `after` edges. -/
def orderingEdges (names : List String) (descriptors : List (Descriptor ρ)) : List (Nat × Nat) :=
  let positionOf (name : String) : Option Nat := names.findIdx? (· == name)
  (descriptors.zipIdx.map fun (d, source) =>
    d.before.filterMap (fun name => (positionOf name).map fun target => (source, target)) ++
      d.after.filterMap (fun name => (positionOf name).map fun target => (target, source))).flatten

/-- The state of Kahn's algorithm: remaining in-degrees, the ready positions
in increasing order, and the positions emitted so far. -/
structure KahnState where
  inDegree : Array Nat
  ready : List Nat
  emitted : List Nat

/-- Emit `position` and release its successors. -/
def KahnState.emit (s : KahnState) (successors : Array (List Nat)) (position : Nat) :
    KahnState :=
  let released := (successors.getD position []).foldl
    (fun (acc : Array Nat × List Nat) successor =>
      let degree := acc.1.getD successor 0 - 1
      (acc.1.set! successor degree, if degree == 0 then insertIncreasing successor acc.2 else acc.2))
    (s.inDegree, s.ready)
  { inDegree := released.1, ready := released.2, emitted := s.emitted ++ [position] }

/-- Run Kahn's algorithm until no position is ready. Every round emits one
position, and no more rounds than members are needed. -/
def KahnState.run (s : KahnState) (successors : Array (List Nat)) (count : Nat) : KahnState :=
  match s.ready with
  | [] => s
  | next :: rest =>
    if _fits : s.emitted.length < count then
      KahnState.run ({ s with ready := rest }.emit successors next) successors count
    else s
termination_by count - s.emitted.length
decreasing_by simp [KahnState.emit]; omega

/-- Sort the members (indices into `parsers`, increasing) of a culture. -/
def stableTopologicalSort (culture : String) (parsers : Array (Descriptor ρ))
    (members : List Nat) : Except RegistryError (List Nat) :=
  let descriptors := members.filterMap fun index => parsers[index]?
  let count := members.length
  let edges := orderingEdges (descriptors.map Descriptor.name) descriptors
  let successors := edges.foldl (fun acc (source, target) =>
    acc.modify source (· ++ [target])) (Array.replicate count [])
  let inDegree := edges.foldl (fun acc (_, target) => acc.modify target (· + 1))
    (Array.replicate count 0)
  let start : KahnState :=
    { inDegree, ready := (List.range count).filter (inDegree.getD · 0 == 0), emitted := [] }
  let finished := start.run successors count
  if finished.emitted.length < count then
    .error (.orderingCycle culture ((List.range count).filter (finished.inDegree.getD · 0 > 0)
      |>.filterMap fun position => descriptors[position]?.map Descriptor.name))
  else .ok (finished.emitted.map fun position => members.getD position 0)

end Reckon

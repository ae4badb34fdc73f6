import Reckon.Document

/-!
A session with its worker threads.

Every new text cancels the pass in flight and starts a pass of its own on a
worker thread; the host then waits for the last pass only. A worker interprets
its text on its own and touches shared state at two points: it may see its
cancellation flag, which is set once the next text has come, and then returns
without publishing; or it finishes and, holding the lock on the published slot,
stores its result unless a pass at least as new has already published
(`Session.publish`). Each of these is one atomic step here, since nothing a
worker does in between is seen by another thread.

`Workers.Step` is the step relation over the host's texts still to come, the
passes started so far and the published slot; any interleaving of the threads
is a chain of its steps. Pass `i` of the list has generation `i + 1`.
-/

namespace Reckon

namespace Session

/-- The generation of the newest published result; zero before any. -/
def publishedGeneration (s : Session) : Nat :=
  (s.published.map Prod.fst).getD 0

/-- Where the worker thread of one pass is. -/
inductive PassPhase where
  /-- Interpreting its text. -/
  | running
  /-- It saw its cancellation flag and returned without publishing. -/
  | stopped
  /-- It finished and went through the publish step. -/
  | done
deriving DecidableEq, Repr

/-- One pass: the text it interprets and where its worker is. -/
structure Pass where
  text : String
  phase : PassPhase
deriving DecidableEq, Repr

/-- A session with its threads: the texts the host has still to give, one pass
for every text given so far, and the session's generation and published slot. -/
structure Workers where
  pending : List String
  passes : List Pass := []
  session : Session := {}

namespace Workers

/-- A session that has been given no text yet and will be given `texts`. -/
def start (texts : List String) : Workers :=
  { pending := texts }

/-- The host gives `text`, with `rest` still to come: the pass in flight is
flagged as cancelled and a pass for `text` starts with the next generation. -/
def textChanged (w : Workers) (text : String) (rest : List String) : Workers :=
  { pending := rest, passes := w.passes ++ [⟨text, .running⟩],
    session := { w.session with generation := w.session.generation + 1 } }

/-- Whether the cancellation flag of pass `i` is set: the next text has come. -/
def cancelRequested (w : Workers) (i : Nat) : Bool :=
  i + 1 < w.passes.length

/-- Pass `i` finishes interpreting `text` and publishes its result, unless a
pass at least as new has published. -/
def complete (r : Registry) (culture : String) (w : Workers) (i : Nat) (text : String) :
    Workers :=
  let passes := w.passes.set i ⟨text, .done⟩
  match r.interpret text culture false with
  | .ok result => { w with passes, session := w.session.publish (i + 1) result }
  | .error _ => { w with passes }

/-- Pass `i` sees its cancellation flag and returns. -/
def stop (w : Workers) (i : Nat) (text : String) : Workers :=
  { w with passes := w.passes.set i ⟨text, .stopped⟩ }

section Fields

variable {r : Registry} {culture : String} {w : Workers} {i : Nat} {text : String}

@[simp] theorem textChanged_pending (rest : List String) : (w.textChanged text rest).pending = rest :=
  rfl

@[simp] theorem textChanged_passes (rest : List String) :
    (w.textChanged text rest).passes = w.passes ++ [⟨text, .running⟩] :=
  rfl

@[simp] theorem textChanged_published (rest : List String) :
    (w.textChanged text rest).session.published = w.session.published :=
  rfl

@[simp] theorem complete_pending : (w.complete r culture i text).pending = w.pending := by
  unfold complete; split <;> rfl

@[simp] theorem complete_passes :
    (w.complete r culture i text).passes = w.passes.set i ⟨text, .done⟩ := by
  unfold complete; split <;> rfl

theorem complete_session_of_ok {result : DocumentResult}
    (interpreted : r.interpret text culture false = .ok result) :
    (w.complete r culture i text).session = w.session.publish (i + 1) result := by
  simp only [complete, interpreted]

@[simp] theorem stop_pending : (w.stop i text).pending = w.pending :=
  rfl

@[simp] theorem stop_passes : (w.stop i text).passes = w.passes.set i ⟨text, .stopped⟩ :=
  rfl

@[simp] theorem stop_session : (w.stop i text).session = w.session :=
  rfl

end Fields

/-- One step of one thread: the host gives the next text, or a running pass
finishes, or a running pass whose flag is set sees it. -/
inductive Step (r : Registry) (culture : String) : Workers → Workers → Prop where
  | textChanged {w : Workers} {text : String} {rest : List String}
      (next : w.pending = text :: rest) : Step r culture w (w.textChanged text rest)
  | complete {w : Workers} {i : Nat} {text : String}
      (running : w.passes[i]? = some ⟨text, .running⟩) :
      Step r culture w (w.complete r culture i text)
  | stop {w : Workers} {i : Nat} {text : String}
      (running : w.passes[i]? = some ⟨text, .running⟩) (flagged : w.cancelRequested i = true) :
      Step r culture w (w.stop i text)

/-- The host's wait has returned: every text has been given and the last pass
is no longer running. -/
def Waited (w : Workers) : Prop :=
  w.pending = [] ∧ ∀ last, w.passes.getLast? = some last → last.phase ≠ .running

end Workers

end Session

end Reckon

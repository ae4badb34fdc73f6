import Mathlib.Logic.Relation
import Reckon.Document.Workers
import Reckon.Proofs.Lines

/-!
Contract: a stale pass never overwrites a newer result.

The publish step stores a result only over an older one, so the generation in
the published slot never falls (`Session.publishedGeneration_publish`,
`Workers.Step.publishedGeneration_le`).

Every state a session reaches from its texts is `Workers.Consistent`: the
passes read the texts in order, a stopped pass had its flag set, so the last
pass never stops, a finished pass is at or below the published generation, and
the slot holds the result of the pass of its generation. When the host's wait
returns, the last pass has finished, so the slot holds its result
(`Workers.Consistent.settled`); from then on no pass is newer, every further
publish step keeps the slot, and the session stays `Workers.Settled` however
the stale passes end (`Workers.Settled.run`).

Owns: `Workers.Consistent`, `Workers.Settled` and the facts above.
Does not own: what a pass computes (`Registry.interpret`).
-/

namespace Reckon.Session

/-! ### The publish step -/

theorem publishedGeneration_publish (s : Session) (generation : Nat) (result : DocumentResult) :
    (s.publish generation result).publishedGeneration = max s.publishedGeneration generation := by
  unfold publish publishedGeneration
  cases published : s.published with
  | none => simp
  | some entry =>
    obtain ⟨newest, kept⟩ := entry
    by_cases newer : newest < generation
    · simp only [newer, if_true, Option.map_some, Option.getD_some]
      omega
    · simp only [newer, if_false, published, Option.map_some, Option.getD_some]
      omega

/-- A result older than the published one is not stored. -/
theorem publish_of_le {s : Session} {newest generation : Nat} {kept result : DocumentResult}
    (published : s.published = some (newest, kept)) (older : generation ≤ newest) :
    s.publish generation result = s := by
  simp [publish, published, Nat.not_lt.mpr older]

/-- The slot after a publish step holds the new result or what it held before. -/
theorem publish_published {s : Session} {generation newest : Nat} {result kept : DocumentResult}
    (stored : (s.publish generation result).published = some (newest, kept)) :
    newest = generation ∧ kept = result ∨ s.published = some (newest, kept) := by
  unfold publish at stored
  split at stored
  · split at stored
    · simp only [Option.some.injEq, Prod.mk.injEq] at stored
      exact .inl ⟨stored.1.symm, stored.2.symm⟩
    · exact .inr stored
  · simp only [Option.some.injEq, Prod.mk.injEq] at stored
    exact .inl ⟨stored.1.symm, stored.2.symm⟩

namespace Workers

variable {r : Registry} {culture : String} {w w' : Workers}

/-- A pass that is not cancelled always has a result, which its publish step
offers to the slot. -/
theorem complete_publishes (r : Registry) (culture : String) (w : Workers) (i : Nat)
    (text : String) : ∃ result, r.interpret text culture false = .ok result ∧
      (w.complete r culture i text).session = w.session.publish (i + 1) result :=
  ⟨_, interpret_eq r text culture, complete_session_of_ok (interpret_eq r text culture)⟩

/-- No step of any thread lowers the generation of the published result. -/
theorem Step.publishedGeneration_le (step : Step r culture w w') :
    w.session.publishedGeneration ≤ w'.session.publishedGeneration := by
  cases step with
  | textChanged next => simp [publishedGeneration]
  | @complete i text running =>
    obtain ⟨result, -, session⟩ := complete_publishes r culture w i text
    rw [session, publishedGeneration_publish]
    exact Nat.le_max_left _ _
  | stop running flagged => simp

/-! ### Passes -/

/-- Finishing or stopping a pass keeps the texts of the passes. -/
theorem map_text_set {passes : List Pass} {i : Nat} {text : String} {phase phase' : PassPhase}
    (found : passes[i]? = some ⟨text, phase⟩) :
    (passes.set i ⟨text, phase'⟩).map Pass.text = passes.map Pass.text := by
  apply List.ext_getElem?
  intro j
  by_cases same : i = j
  · subst same
    obtain ⟨inside, atIndex⟩ := List.getElem?_eq_some_iff.mp found
    simp [inside, atIndex]
  · simp [same]

/-- A pass after one was set is that one, or the pass that stood there before. -/
theorem getElem?_set_eq_some {passes : List Pass} {i j : Nat} {set pass : Pass}
    (found : (passes.set i set)[j]? = some pass) :
    i = j ∧ pass = set ∨ i ≠ j ∧ passes[j]? = some pass := by
  rw [List.getElem?_set] at found
  split at found
  · rename_i same
    split at found
    · exact .inl ⟨same, (Option.some.inj found).symm⟩
    · cases found
  · rename_i other
    exact .inr ⟨other, found⟩

/-- A pass of a list with one more pass is one of the list or the new one. -/
theorem getElem?_append_singleton_eq_some {passes : List Pass} {i : Nat} {added pass : Pass}
    (found : (passes ++ [added])[i]? = some pass) :
    passes[i]? = some pass ∨ i = passes.length ∧ pass = added := by
  rw [List.getElem?_append] at found
  split at found
  · exact .inl found
  · rename_i outside
    rw [List.getElem?_singleton] at found
    split at found
    · exact .inr ⟨by omega, (Option.some.inj found).symm⟩
    · cases found

/-! ### Every reachable state -/

/-- What holds of every state that a session given `texts` reaches. -/
structure Consistent (r : Registry) (culture : String) (texts : List String) (w : Workers) :
    Prop where
  texts_eq : w.passes.map Pass.text ++ w.pending = texts
  stopped_flagged : ∀ i pass, w.passes[i]? = some pass → pass.phase = .stopped →
    i + 1 < w.passes.length
  done_published : ∀ i pass, w.passes[i]? = some pass → pass.phase = .done →
    i + 1 ≤ w.session.publishedGeneration
  published_result : ∀ generation result, w.session.published = some (generation, result) →
    0 < generation ∧ generation ≤ w.passes.length ∧
      ∃ text, texts[generation - 1]? = some text ∧ r.interpret text culture false = .ok result

variable {texts : List String}

theorem Consistent.start : Consistent r culture texts (Workers.start texts) where
  texts_eq := rfl
  stopped_flagged _ _ found := by cases found
  done_published _ _ found := by cases found
  published_result _ _ found := by cases found

/-- The text of a pass is the text of its generation. -/
theorem Consistent.text_of_pass (consistent : Consistent r culture texts w) {i : Nat} {pass : Pass}
    (found : w.passes[i]? = some pass) : texts[i]? = some pass.text := by
  have inside : i < (w.passes.map Pass.text).length := by
    simpa using (List.getElem?_eq_some_iff.mp found).1
  rw [← consistent.texts_eq, List.getElem?_append_left inside, List.getElem?_map, found,
    Option.map_some]

theorem Consistent.textChanged (consistent : Consistent r culture texts w) {text : String}
    {rest : List String} (next : w.pending = text :: rest) :
    Consistent r culture texts (w.textChanged text rest) where
  texts_eq := by
    rw [← consistent.texts_eq, next]
    simp
  stopped_flagged i pass found stopped := by
    simp only [textChanged_passes, List.length_append, List.length_singleton] at found ⊢
    rcases getElem?_append_singleton_eq_some found with old | ⟨-, rfl⟩
    · have := consistent.stopped_flagged i pass old stopped
      omega
    · cases stopped
  done_published i pass found done := by
    simp only [textChanged_passes] at found
    rcases getElem?_append_singleton_eq_some found with old | ⟨-, rfl⟩
    · simpa [publishedGeneration] using consistent.done_published i pass old done
    · cases done
  published_result generation result stored := by
    simp only [textChanged_published, textChanged_passes, List.length_append] at stored ⊢
    obtain ⟨positive, within, text, atGeneration, interpreted⟩ :=
      consistent.published_result generation result stored
    exact ⟨positive, by omega, text, atGeneration, interpreted⟩

theorem Consistent.complete (consistent : Consistent r culture texts w) {i : Nat} {text : String}
    (running : w.passes[i]? = some ⟨text, .running⟩) :
    Consistent r culture texts (w.complete r culture i text) := by
  have inside := (List.getElem?_eq_some_iff.mp running).1
  obtain ⟨computed, interpreted, session⟩ := complete_publishes r culture w i text
  exact {
    texts_eq := by
      rw [complete_passes, complete_pending, map_text_set running]
      exact consistent.texts_eq
    stopped_flagged := fun j pass found stopped => by
      rw [complete_passes] at found
      rw [complete_passes, List.length_set]
      rcases getElem?_set_eq_some found with ⟨-, rfl⟩ | ⟨-, old⟩
      · cases stopped
      · exact consistent.stopped_flagged j pass old stopped
    done_published := fun j pass found done => by
      rw [complete_passes] at found
      rw [session, publishedGeneration_publish]
      rcases getElem?_set_eq_some found with ⟨rfl, -⟩ | ⟨-, old⟩
      · exact Nat.le_max_right _ _
      · exact Nat.le_trans (consistent.done_published j pass old done) (Nat.le_max_left _ _)
    published_result := fun generation result stored => by
      rw [complete_passes, List.length_set]
      rw [session] at stored
      rcases publish_published stored with ⟨rfl, rfl⟩ | old
      · exact ⟨Nat.succ_pos i, inside, text, consistent.text_of_pass running, interpreted⟩
      · exact consistent.published_result generation result old }

theorem Consistent.stop (consistent : Consistent r culture texts w) {i : Nat} {text : String}
    (running : w.passes[i]? = some ⟨text, .running⟩) (flagged : w.cancelRequested i = true) :
    Consistent r culture texts (w.stop i text) where
  texts_eq := by
    rw [stop_passes, stop_pending, map_text_set running]
    exact consistent.texts_eq
  stopped_flagged j pass found stopped := by
    rw [stop_passes] at found
    rw [stop_passes, List.length_set]
    rcases getElem?_set_eq_some found with ⟨rfl, -⟩ | ⟨-, old⟩
    · simpa [cancelRequested] using flagged
    · exact consistent.stopped_flagged j pass old stopped
  done_published j pass found done := by
    rw [stop_passes] at found
    rw [stop_session]
    rcases getElem?_set_eq_some found with ⟨-, rfl⟩ | ⟨-, old⟩
    · cases done
    · exact consistent.done_published j pass old done
  published_result generation result stored := by
    rw [stop_passes, List.length_set]
    exact consistent.published_result generation result stored

/-- The step lemma: every step of every thread keeps a session consistent. -/
theorem Consistent.step (consistent : Consistent r culture texts w) (step : Step r culture w w') :
    Consistent r culture texts w' := by
  cases step with
  | textChanged next => exact consistent.textChanged next
  | complete running => exact consistent.complete running
  | stop running flagged => exact consistent.stop running flagged

/-- The run lemma: every state reached from the start is consistent. -/
theorem Consistent.run (run : Relation.ReflTransGen (Step r culture) (Workers.start texts) w) :
    Consistent r culture texts w := by
  induction run with
  | refl => exact Consistent.start
  | tail _ step consistent => exact consistent.step step

/-! ### After the host's wait -/

/-- Every text has been given and the slot holds `result` at the generation of
the last pass, so no pass is newer. -/
structure Settled (w : Workers) (result : DocumentResult) : Prop where
  pending_eq : w.pending = []
  published_eq : w.session.published = some (w.passes.length, result)

/-- After the wait, the pass of the newest text is done: it is not running, and
it cannot have stopped, since no pass came after it. -/
theorem Consistent.newest_done {earlier : List String} {newest : String}
    (consistent : Consistent r culture (earlier ++ [newest]) w) (waited : w.Waited) :
    w.passes.length = earlier.length + 1 ∧
      ∃ last, w.passes[earlier.length]? = some last ∧ last.phase = .done := by
  obtain ⟨given, lastNotRunning⟩ := waited
  have texts := consistent.texts_eq
  rw [given, List.append_nil] at texts
  have count : w.passes.length = earlier.length + 1 := by
    simpa using congrArg List.length texts
  obtain ⟨last, lastFound⟩ : ∃ last, w.passes[earlier.length]? = some last :=
    ⟨_, List.getElem?_eq_getElem (by omega)⟩
  have isLast : w.passes.getLast? = some last := by
    rw [List.getLast?_eq_getElem?, count, Nat.add_sub_cancel, lastFound]
  refine ⟨count, last, lastFound, ?_⟩
  cases phase : last.phase with
  | running => exact absurd phase (lastNotRunning last isLast)
  | stopped =>
    have := consistent.stopped_flagged _ last lastFound phase
    omega
  | done => rfl

/-- When the wait returns, the last pass has finished and published, and nothing
newer has: the slot holds the result of the last text. -/
theorem Consistent.settled {earlier : List String} {newest : String}
    (consistent : Consistent r culture (earlier ++ [newest]) w) (waited : w.Waited) :
    ∃ result, r.interpret newest culture false = .ok result ∧ Settled w result := by
  obtain ⟨count, last, lastFound, lastDone⟩ := consistent.newest_done waited
  have atLeast := consistent.done_published _ last lastFound lastDone
  -- so the slot holds the result of a generation at least the last one's, and none is higher
  obtain ⟨⟨generation, result⟩, stored⟩ : ∃ entry, w.session.published = some entry := by
    cases held : w.session.published with
    | none => simp [publishedGeneration, held] at atLeast
    | some entry => exact ⟨entry, rfl⟩
  obtain ⟨-, within, text, atGeneration, interpreted⟩ :=
    consistent.published_result generation result stored
  have lowest : earlier.length + 1 ≤ generation := by
    simpa [publishedGeneration, stored] using atLeast
  have exact : generation = earlier.length + 1 := by omega
  subst exact
  rw [Nat.add_sub_cancel, List.getElem?_append_right (Nat.le_refl _), Nat.sub_self,
    List.getElem?_singleton, if_pos rfl, Option.some.injEq] at atGeneration
  subst atGeneration
  exact ⟨result, interpreted, waited.1, by rw [count]; exact stored⟩

/-- Once settled, no step changes the slot: every pass is at most as new as the
published one, and no text is left to give. -/
theorem Settled.step {result : DocumentResult} (settled : Settled w result)
    (step : Step r culture w w') : Settled w' result := by
  cases step with
  | textChanged next => rw [settled.pending_eq] at next; cases next
  | @complete i text running =>
    have inside := (List.getElem?_eq_some_iff.mp running).1
    obtain ⟨computed, -, session⟩ := complete_publishes r culture w i text
    refine ⟨by rw [complete_pending, settled.pending_eq], ?_⟩
    rw [session, publish_of_le settled.published_eq (by omega),
      complete_passes, List.length_set]
    exact settled.published_eq
  | stop running flagged =>
    refine ⟨by rw [stop_pending, settled.pending_eq], ?_⟩
    rw [stop_session, stop_passes, List.length_set]
    exact settled.published_eq

theorem Settled.run {result : DocumentResult} (settled : Settled w result)
    (run : Relation.ReflTransGen (Step r culture) w w') : Settled w' result := by
  induction run with
  | refl => exact settled
  | tail _ step settledBefore => exact settledBefore.step step

theorem Settled.latest {result : DocumentResult} (settled : Settled w result) :
    w.session.latest = some result := by
  simp [Session.latest, settled.published_eq]

/-- A stale pass never overwrites a newer result. Whatever the interleaving of
the host and the worker threads, no step lowers the published generation; and
once the host has given `earlier` and then `newest` and its wait has returned,
the session holds the result of interpreting `newest`, and keeps it however
the stale passes end. -/
theorem stale_pass_never_overwrites_newer_result (r : Registry) (culture : String)
    (earlier : List String) (newest : String) :
    (∀ w w', Step r culture w w' →
      w.session.publishedGeneration ≤ w'.session.publishedGeneration) ∧
    ∀ w, Relation.ReflTransGen (Step r culture) (Workers.start (earlier ++ [newest])) w →
      w.Waited → ∀ w', Relation.ReflTransGen (Step r culture) w w' →
        w'.session.latest = (r.interpret newest culture false).toOption := by
  refine ⟨fun w w' step => step.publishedGeneration_le, fun w reached waited w' later => ?_⟩
  obtain ⟨result, interpreted, settled⟩ := (Consistent.run reached).settled waited
  rw [(settled.run later).latest, interpreted]
  rfl

/-- Two texts: the second pass finishes, the host's wait returns, and then the
first pass finishes late; the session still holds the second text's result. -/
theorem late_first_pass_keeps_second_result :
    let r : Registry := ⟨⟨#[], [], []⟩, ⟨#[], [], []⟩⟩
    let w := (((Workers.start ["1", "2"]).textChanged "1" ["2"]).textChanged "2" []).complete
      r "en-US" 1 "2"
    Relation.ReflTransGen (Step r "en-US") (Workers.start ["1", "2"]) w ∧ w.Waited ∧
      (w.complete r "en-US" 0 "1").session.latest = (r.interpret "2" "en-US" false).toOption := by
  intro r w
  have reached : Relation.ReflTransGen (Step r "en-US") (Workers.start ["1", "2"]) w :=
    ((Relation.ReflTransGen.single (Step.textChanged rfl)).tail (Step.textChanged rfl)).tail
      (Step.complete rfl)
  have waited : w.Waited := by
    refine ⟨rfl, fun last isLast => ?_⟩
    simp only [w, complete_passes, textChanged_passes] at isLast
    cases isLast
    simp
  have lateRunning : w.passes[0]? = some ⟨"1", .running⟩ := by
    simp [w, complete_passes, textChanged_passes, Workers.start]
  exact ⟨reached, waited, (stale_pass_never_overwrites_newer_result r "en-US" ["1"] "2").2 w
    reached waited _ (Relation.ReflTransGen.single (Step.complete lateRunning))⟩

end Workers

end Reckon.Session

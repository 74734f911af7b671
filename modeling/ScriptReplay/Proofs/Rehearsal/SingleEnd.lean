import ScriptReplay.Proofs.Rehearsal.Transcript

namespace ScriptReplay

namespace Transaction

variable {σ : Type} [Session σ]

theorem release_finished (s : σ) : Guard.release ⟨s, true⟩ = ⟨s, [], ()⟩ := if_pos rfl

theorem release_open (s : σ) : Guard.release ⟨s, false⟩ = abandon s := if_neg Bool.false_ne_true

theorem conclude_commit (s : σ) : conclude .commit ⟨s, false⟩ = commit s := by
  unfold conclude commit Guard.commit
  match h : Session.commit s with
  | (t, .ok ()) => simp only [release_finished]
  | (t, .error e) => simp only [release_open]

theorem conclude_rollback (s : σ) : conclude .rollback ⟨s, false⟩ = rollback s := by
  unfold conclude rollback Guard.rollback
  simp only [release_finished]

theorem conclude_abandon (s : σ) : conclude .abandon ⟨s, false⟩ =
    ⟨(abandon s).session, (abandon s).journal, .ok ()⟩ := by
  unfold conclude
  simp only [release_open]

end Transaction

open Transaction

def Refusals.answer (r : Refusals) (sql : Text) : Answer :=
  if r.rejects sql then .error (Rehearsal.rejected sql) else .ok ()

namespace Rehearsal

def answerTo (s : Rehearsal) : Ending → Answer
  | .commit =>
    if s.callNumber .commit ∈ s.refusals.commits then
      .error (refused "commit" (s.callNumber .commit))
    else .ok ()
  | .rollback =>
    if s.callNumber .rollback ∈ s.refusals.rollbacks then
      .error (refused "rollback" (s.callNumber .rollback))
    else .ok ()
  | .abandon => .ok ()

def endEvents : Ending → Answer → List Event
  | .commit, .ok () => [.commit]
  | .commit, .error _ => [.commit, .rollback]
  | .rollback, _ => [.rollback]
  | .abandon, _ => [.rollback]

theorem execute_eq (s : Rehearsal) (finished : Bool) (sql : Text) :
    Guard.execute ⟨s, finished⟩ sql =
      (⟨s.executed [sql] ([sql].filter fun x => !s.refusals.rejects x), finished⟩,
        s.refusals.answer sql) := by
  unfold Guard.execute Refusals.answer
  cases h : s.refusals.rejects sql with
  | true => simp [execute_rejected h, h, executed, record]
  | false => simp [execute_accepted h, h]

theorem executeEach_eq (s : Rehearsal) (finished : Bool) (sqls : List Text) :
    Guard.executeEach ⟨s, finished⟩ sqls =
      (⟨s.executed sqls (sqls.filter fun x => !s.refusals.rejects x), finished⟩,
        sqls.map s.refusals.answer) := by
  induction sqls generalizing s with
  | nil => rw [Guard.executeEach, List.filter_nil, executed_nil, List.map_nil]
  | cons sql rest ih =>
    have hrefusals (as bs : List Text) : (s.executed as bs).refusals = s.refusals := rfl
    simp only [Guard.executeEach, execute_eq, ih, hrefusals, executed_executed, List.map_cons]
    rw [← List.filter_append, List.singleton_append]

theorem conclude_events (s : Rehearsal) (ending : Ending) :
    (conclude ending ⟨s, false⟩).result = s.answerTo ending ∧
      (conclude ending ⟨s, false⟩).session.events =
        s.events ++ endEvents ending (s.answerTo ending) := by
  cases ending with
  | commit =>
    rw [conclude_commit]
    by_cases h : s.callNumber .commit ∈ s.refusals.commits
    · simp only [Transaction.commit, commit_refused h, abandon_session, rollback_events, answerTo,
        if_pos h]
      exact ⟨trivial, List.append_assoc _ _ _⟩
    · simp only [Transaction.commit, commit_granted h, answerTo, if_neg h]
      exact ⟨trivial, rfl⟩
  | rollback =>
    rw [conclude_rollback]
    refine ⟨?_, rollback_events s⟩
    by_cases h : s.callNumber .rollback ∈ s.refusals.rollbacks
    · rw [answerTo, if_pos h]
      exact congrArg Prod.snd (rollback_refused h)
    · rw [answerTo, if_neg h]
      exact congrArg Prod.snd (rollback_granted h)
  | abandon =>
    rw [conclude_abandon]
    refine ⟨rfl, ?_⟩
    simp only [abandon_session]
    exact rollback_events s

theorem answerTo_begun (s : Rehearsal) (attempted held : List Text) (ending : Ending) :
    ((s.record .begin).executed attempted held).answerTo ending = s.answerTo ending := by
  have hcount {e : Event} (hb : .begin ≠ e) (he : ∀ sql, .execute sql ≠ e) :
      ((s.record .begin).executed attempted held).callNumber e = s.callNumber e := by
    rw [callNumber_executed _ _ _ he, callNumber_record hb]
  have hrefusals : ((s.record .begin).executed attempted held).refusals = s.refusals := rfl
  cases ending with
  | commit => rw [answerTo, hcount (by decide) (by simp), hrefusals, answerTo]
  | rollback => rw [answerTo, hcount (by decide) (by simp), hrefusals, answerTo]
  | abandon => rfl

/-- What a session sees of a transaction, whatever the calls answer. A refused begin is all it sees.
After any other it sees each statement in order and then one end: a commit that was granted, a
refused commit with a rollback behind it, or a rollback, refused or not. -/
theorem whole_ends_once (s : Rehearsal) (sqls : List Text) (ending : Ending) :
    let ran := whole s sqls ending
    if s.callNumber .begin ∈ s.refusals.begins then
      ran.session = s.record .begin ∧
        ran.result = .error (refused "begin" (s.callNumber .begin))
    else
      ran.result = .ok (sqls.map s.refusals.answer, s.answerTo ending) ∧
        ran.session.events = s.events ++
          ([.begin] ++ sqls.map .execute ++ endEvents ending (s.answerTo ending)) := by
  intro ran
  split
  · rename_i h
    simp only [ran, whole, begin_refused h]
    exact ⟨trivial, trivial⟩
  · rename_i h
    obtain ⟨hresult, hevents⟩ := conclude_events ((s.record .begin).executed sqls
      (sqls.filter fun x => !s.refusals.rejects x)) ending
    rw [answerTo_begun] at hresult hevents
    simp only [ran, whole, begin_granted h, executeEach_eq, record_refusals]
    refine ⟨by rw [hresult], hevents.trans ?_⟩
    simp only [executed, record, List.append_assoc]

example :
    let ran := whole unwillingRehearsal [['A'], ['X'], ['B']] .abandon
    ran.session.events = unwillingRehearsal.events ++
      [.begin, .execute ['A'], .execute ['X'], .execute ['B'], .rollback] := by decide

end Rehearsal

end ScriptReplay

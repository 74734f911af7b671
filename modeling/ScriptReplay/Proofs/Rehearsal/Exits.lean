import ScriptReplay.Execution
import ScriptReplay.Session.Rehearsal

namespace ScriptReplay.Rehearsal

open Execution

@[simp] theorem record_refusals (s : Rehearsal) (e : Event) :
    (s.record e).refusals = s.refusals := rfl

@[simp] theorem record_committed (s : Rehearsal) (e : Event) :
    (s.record e).committed = s.committed := rfl

def executed (s : Rehearsal) (attempted held : List Text) : Rehearsal :=
  { s with events := s.events ++ attempted.map .execute, pending := s.pending ++ held }

theorem executed_nil (s : Rehearsal) : s.executed [] [] = s := by
  simp [executed]

theorem executed_executed (s : Rehearsal) (as bs cs ds : List Text) :
    (s.executed as bs).executed cs ds = s.executed (as ++ cs) (bs ++ ds) := by
  simp [executed]

theorem callNumber_record {s : Rehearsal} {e e' : Event} (h : e' ≠ e) :
    (s.record e').callNumber e = s.callNumber e := by
  simp [callNumber, record, h]

theorem callNumber_executed (s : Rehearsal) (attempted held : List Text) {e : Event}
    (h : ∀ sql, .execute sql ≠ e) : (s.executed attempted held).callNumber e = s.callNumber e := by
  have hnone : e ∉ attempted.map Event.execute := by simp [h]
  simp [callNumber, executed, List.count_append, List.count_eq_zero.mpr hnone]

theorem begin_refused {s : Rehearsal} (h : s.callNumber .begin ∈ s.refusals.begins) :
    Session.begin s = (s.record .begin, .error (refused "begin" (s.callNumber .begin))) :=
  if_pos h

theorem begin_granted {s : Rehearsal} (h : s.callNumber .begin ∉ s.refusals.begins) :
    Session.begin s = (s.record .begin, .ok ()) :=
  if_neg h

theorem execute_rejected {s : Rehearsal} {sql : Text} (h : s.refusals.rejects sql = true) :
    Session.execute s sql = (s.record (.execute sql), .error (rejected sql)) :=
  if_pos h

theorem execute_accepted {s : Rehearsal} {sql : Text} (h : s.refusals.rejects sql = false) :
    Session.execute s sql = (s.executed [sql] [sql], .ok ()) := by
  have hn : ¬ (s.record (.execute sql)).refusals.rejects sql = true := by simp [h]
  exact if_neg hn

theorem commit_refused {s : Rehearsal} (h : s.callNumber .commit ∈ s.refusals.commits) :
    Session.commit s = (s.record .commit, .error (refused "commit" (s.callNumber .commit))) :=
  if_pos h

theorem commit_granted {s : Rehearsal} (h : s.callNumber .commit ∉ s.refusals.commits) :
    Session.commit s =
      ({ s.record .commit with committed := s.committed ++ s.pending, pending := [] }, .ok ()) :=
  if_neg h

theorem rollback_refused {s : Rehearsal} (h : s.callNumber .rollback ∈ s.refusals.rollbacks) :
    s.rollback = (s.record .rollback, .error (refused "rollback" (s.callNumber .rollback))) :=
  if_pos h

theorem rollback_granted {s : Rehearsal} (h : s.callNumber .rollback ∉ s.refusals.rollbacks) :
    s.rollback = ({ s.record .rollback with pending := [] }, .ok ()) :=
  if_neg h

theorem rollback_committed (s : Rehearsal) : s.rollback.1.committed = s.committed := by
  by_cases h : s.callNumber .rollback ∈ s.refusals.rollbacks
  · rw [rollback_refused h, record_committed]
  · rw [rollback_granted h, record_committed]

theorem executeFrom_accepted (index : Nat) (s : Rehearsal) (sqls : List Text)
    (h : ∀ sql ∈ sqls, s.refusals.rejects sql = false) :
    (executeFrom index s sqls).session = s.executed sqls sqls ∧
      (executeFrom index s sqls).result = .ok () := by
  induction sqls generalizing index s with
  | nil => exact ⟨(executed_nil s).symm, rfl⟩
  | cons sql rest ih =>
    have hrest : ∀ x ∈ rest, (s.executed [sql] [sql]).refusals.rejects x = false :=
      fun x hx => h x (List.mem_cons_of_mem _ hx)
    obtain ⟨hs, hr⟩ := ih (index + 1) (s.executed [sql] [sql]) hrest
    simp only [executeFrom, execute_accepted (h sql List.mem_cons_self)]
    exact ⟨hs.trans (executed_executed s _ _ _ _), hr⟩

theorem executeFrom_rejected (index : Nat) (s : Rehearsal) (first : List Text) (sql : Text)
    (rest : List Text) (hf : ∀ x ∈ first, s.refusals.rejects x = false)
    (h : s.refusals.rejects sql = true) :
    (executeFrom index s (first ++ sql :: rest)).session = s.executed (first ++ [sql]) first ∧
      (executeFrom index s (first ++ sql :: rest)).result =
        .error (.ofStatement (index + first.length) sql (rejected sql)) := by
  induction first generalizing index s with
  | nil =>
    simp only [List.nil_append, executeFrom, execute_rejected h]
    exact ⟨by simp [executed, record], rfl⟩
  | cons x first ih =>
    have hrest : ∀ y ∈ first, (s.executed [x] [x]).refusals.rejects y = false :=
      fun y hy => hf y (List.mem_cons_of_mem _ hy)
    obtain ⟨hs, hr⟩ := ih (index + 1) (s.executed [x] [x]) hrest h
    simp only [List.cons_append, executeFrom, execute_accepted (hf x List.mem_cons_self)]
    refine ⟨hs.trans (executed_executed s _ _ _ _), hr.trans ?_⟩
    rw [List.length_cons, Nat.add_right_comm, Nat.add_assoc]

theorem accepted_or_rejected (r : Refusals) (sqls : List Text) :
    (∀ sql ∈ sqls, r.rejects sql = false) ∨
      ∃ first sql rest, sqls = first ++ sql :: rest ∧
        (∀ x ∈ first, r.rejects x = false) ∧ r.rejects sql = true := by
  induction sqls with
  | nil => left; simp
  | cons x xs ih =>
    cases hx : r.rejects x with
    | true => exact .inr ⟨[], x, xs, rfl, by simp, hx⟩
    | false =>
      rcases ih with h | ⟨first, sql, rest, rfl, hf, h⟩
      · left
        simpa [hx] using h
      · exact .inr ⟨x :: first, sql, rest, rfl, by simpa [hx] using hf, h⟩

inductive Exits (s : Rehearsal) (sqls : List Text) : Rehearsal → Except ReplayError Unit → Prop
  | beginRefused (h : s.callNumber .begin ∈ s.refusals.begins) :
    Exits s sqls (s.record .begin)
      (.error (.transaction (refused "begin" (s.callNumber .begin))))
  | statementRejected (first : List Text) (sql : Text) (rest : List Text)
    (begun : s.callNumber .begin ∉ s.refusals.begins) (split : sqls = first ++ sql :: rest)
    (accepted : ∀ x ∈ first, s.refusals.rejects x = false) (h : s.refusals.rejects sql = true) :
    Exits s sqls ((s.record .begin).executed (first ++ [sql]) first).rollback.1
      (.error (.ofStatement (first.length + 1) sql (rejected sql)))
  | commitRefused (call : Nat) (begun : s.callNumber .begin ∉ s.refusals.begins)
    (accepted : ∀ x ∈ sqls, s.refusals.rejects x = false)
    (number : call = ((s.record .begin).executed sqls sqls).callNumber .commit)
    (h : call ∈ s.refusals.commits) :
    Exits s sqls (((s.record .begin).executed sqls sqls).record .commit).rollback.1
      (.error (.transaction (refused "commit" call)))
  | committed (begun : s.callNumber .begin ∉ s.refusals.begins)
    (accepted : ∀ x ∈ sqls, s.refusals.rejects x = false)
    (h : ((s.record .begin).executed sqls sqls).callNumber .commit ∉ s.refusals.commits) :
    Exits s sqls
      { ((s.record .begin).executed sqls sqls).record .commit with
        committed := s.committed ++ (s.pending ++ sqls)
        pending := [] }
      (.ok ())

theorem abandon_session (s : Rehearsal) :
    (Transaction.abandon s).session = s.rollback.1 := by
  unfold Transaction.abandon
  cases h : Session.rollback s with
  | mk u answer => cases answer <;> exact (congrArg Prod.fst h).symm

theorem executeAll_exits (s : Rehearsal) (sqls : List Text) :
    Exits s sqls (executeAll s sqls).session (executeAll s sqls).result := by
  by_cases hb : s.callNumber .begin ∈ s.refusals.begins
  · simp only [executeAll, begin_refused hb]
    exact .beginRefused hb
  · simp only [executeAll, begin_granted hb]
    rcases accepted_or_rejected s.refusals sqls with ha | ⟨first, sql, rest, rfl, hf, h⟩
    · obtain ⟨hs, hr⟩ := executeFrom_accepted 1 (s.record .begin) sqls ha
      rw [hr, hs]
      let ran := (s.record .begin).executed sqls sqls
      by_cases hc : ran.callNumber .commit ∈ ran.refusals.commits
      · simp only [Transaction.commit, ran, commit_refused hc, abandon_session]
        exact .commitRefused _ hb ha rfl hc
      · simp only [Transaction.commit, ran, commit_granted hc]
        exact .committed hb ha hc
    · obtain ⟨hs, hr⟩ := executeFrom_rejected 1 (s.record .begin) first sql rest hf h
      rw [hr, hs, Nat.add_comm]
      exact .statementRejected first sql rest hb rfl hf h

end ScriptReplay.Rehearsal

import ScriptReplay.Proofs.Execution.Course
import ScriptReplay.Session.Engine

/-!
What is relied on of the engine behind a connection. `Transactional` says that transactions end when
they are told to. `Lawful` says, of a `Semantics`, how each statement bears on the committed content
and on the one that the connection sees. A begin and a commit may be refused at any time, and a
statement that fails may end the transaction it is in.
-/

namespace ScriptReplay.Engine

open Execution

variable {κ ι δ : Type}

section

variable (step : κ → ι → κ × Answer)

theorem step_cases (c : κ) (st : ι) :
    (∃ u, step c st = (u, .ok ())) ∨ ∃ u e, step c st = (u, .error e) := by
  rcases step c st with ⟨u, e | ⟨⟩⟩
  · exact .inr ⟨u, e, rfl⟩
  · exact .inl ⟨u, rfl⟩

theorem runEach_cons {c u : κ} {st : ι} (h : step c st = (u, .ok ())) (rest : List ι) :
    runEach step c (st :: rest) = runEach step u rest := by
  rw [runEach, h]

theorem runEach_cons_of_failed {c u : κ} {st : ι} {e : SessionError}
    (h : step c st = (u, .error e)) (rest : List ι) :
    runEach step c (st :: rest) = (u, .error e) := by
  rw [runEach, h]

theorem runEach_singleton (c : κ) (st : ι) : runEach step c [st] = step c st := by
  rcases step_cases step c st with ⟨u, hs⟩ | ⟨u, e, hs⟩
  · rw [runEach_cons step hs, hs]
    rfl
  · rw [runEach_cons_of_failed step hs, hs]

theorem runEach_append {c u : κ} {first : List ι} (h : runEach step c first = (u, .ok ()))
    (rest : List ι) : runEach step c (first ++ rest) = runEach step u rest := by
  induction first generalizing c with
  | nil => cases h; rfl
  | cons st first ih =>
    rcases step_cases step c st with ⟨v, hs⟩ | ⟨v, e, hs⟩
    · rw [runEach_cons step hs] at h
      rw [List.cons_append, runEach_cons step hs]
      exact ih h
    · rw [runEach_cons_of_failed step hs] at h
      cases h

theorem runEach_append_of_failed {c u : κ} {first : List ι} {e : SessionError}
    (h : runEach step c first = (u, .error e)) (rest : List ι) :
    runEach step c (first ++ rest) = (u, .error e) := by
  induction first generalizing c with
  | nil => cases h
  | cons st first ih =>
    rcases step_cases step c st with ⟨v, hs⟩ | ⟨v, e', hs⟩
    · rw [runEach_cons step hs] at h
      rw [List.cons_append, runEach_cons step hs]
      exact ih h
    · rw [runEach_cons_of_failed step hs] at h
      rw [List.cons_append, runEach_cons_of_failed step hs]
      exact h

end

/-- The engine opens no transaction when it refuses to begin one, and none is left open by a commit
that succeeds or by a rollback. -/
structure Transactional (κ : Type) [Engine κ] : Prop where
  begin_refused {c u : κ} {e : SessionError} (free : isAutocommit c = true)
    (refused : executeBatch c "BEGIN".toList = (u, .error e)) : isAutocommit u = true
  commit_done {c u : κ} (done : executeBatch c "COMMIT".toList = (u, .ok ())) :
    isAutocommit u = true
  rolledBack {c : κ} (inside : isAutocommit c = false) :
    isAutocommit (executeBatch c "ROLLBACK".toList).1 = true

/-- How a statement bears on transactions. Nothing is known of the `other` ones: those that set
savepoints, that keep a part of their work when they fail, or whose work does not hang on the content
alone. -/
inductive Role where
  | begin
  | commit
  | rollback
  | plain
  | other
  deriving DecidableEq, Repr

/-- A reading of an engine. A text is cut into statements, and a connection takes one step for each;
some content is committed, and the connection sees the same or, in a transaction, another one. A plain
statement makes a new content of the one seen, or does not apply to it. -/
structure Semantics (κ ι δ : Type) where
  statements : Text → List ι
  role : ι → Role
  step : κ → ι → κ × Answer
  committed : κ → δ
  seen : κ → δ
  apply : ι → δ → Option δ

namespace Semantics

def applied (m : Semantics κ ι δ) (content : δ) (sts : List ι) : Option δ :=
  sts.foldlM (fun content st => m.apply st content) content

theorem applied_append {m : Semantics κ ι δ} {content later : δ} {first : List ι}
    (h : m.applied content first = some later) (rest : List ι) :
    m.applied content (first ++ rest) = m.applied later rest := by
  unfold applied at h ⊢
  rw [List.foldlM_append, h]
  rfl

theorem applied_singleton (m : Semantics κ ι δ) (content : δ) (st : ι) :
    m.applied content [st] = m.apply st content := by
  unfold applied
  rw [List.foldlM_cons]
  cases m.apply st content <;> rfl

def batch (m : Semantics κ ι δ) (source : Text) : List ι :=
  (Script.read source).statements.flatMap m.statements

/-- The laws of a transactional engine, one for each way in which a statement can end. -/
structure Lawful [Engine κ] (m : Semantics κ ι δ) : Prop where
  batch (c : κ) (sql : Text) : executeBatch c sql = runEach m.step c (m.statements sql)
  begin_text : ∃ st, m.statements "BEGIN".toList = [st] ∧ m.role st = .begin
  commit_text : ∃ st, m.statements "COMMIT".toList = [st] ∧ m.role st = .commit
  rollback_text : ∃ st, m.statements "ROLLBACK".toList = [st] ∧ m.role st = .rollback
  seen_of_free {c : κ} (free : isAutocommit c = true) : m.seen c = m.committed c
  begun {c u : κ} {st : ι} (role : m.role st = .begin) (done : m.step c st = (u, .ok ())) :
    isAutocommit c = true ∧ isAutocommit u = false ∧ m.committed u = m.committed c ∧
      m.seen u = m.committed c
  committed {c u : κ} {st : ι} (role : m.role st = .commit) (done : m.step c st = (u, .ok ())) :
    isAutocommit c = false ∧ isAutocommit u = true ∧ m.committed u = m.seen c
  rolledBack (c : κ) {st : ι} (role : m.role st = .rollback) :
    isAutocommit (m.step c st).1 = true ∧ m.committed (m.step c st).1 = m.committed c
  changed {c u : κ} {st : ι} (role : m.role st = .plain) (done : m.step c st = (u, .ok ())) :
    isAutocommit u = isAutocommit c ∧ m.apply st (m.seen c) = some (m.seen u) ∧
      (isAutocommit c = false → m.committed u = m.committed c)
  failed {c u : κ} {st : ι} {e : SessionError} (role : m.role st ≠ .other)
    (failed : m.step c st = (u, .error e)) :
    m.committed u = m.committed c ∧ (isAutocommit c = true → isAutocommit u = true)
  inapplicable {c u : κ} {st : ι} {e : SessionError} (role : m.role st = .plain)
    (failed : m.step c st = (u, .error e)) : m.apply st (m.seen c) = none

end Semantics

variable [Engine κ]

theorem begin_of_free {c : κ} (free : isAutocommit c = true) :
    Session.begin c = executeBatch c "BEGIN".toList :=
  if_pos free

theorem begin_of_inside {c : κ} (inside : isAutocommit c = false) :
    Session.begin c = (c, .error nestedBegin) :=
  if_neg (ne_true_of_eq_false inside)

theorem free_of_begin {c u : κ} (h : Session.begin c = (u, .ok ())) : isAutocommit c = true := by
  cases hc : isAutocommit c with
  | true => rfl
  | false =>
    rw [begin_of_inside hc] at h
    cases h

theorem rollback_of_free {c : κ} (free : isAutocommit c = true) :
    Session.rollback c = (c, .ok ()) :=
  if_pos free

theorem rollback_of_inside {c : κ} (inside : isAutocommit c = false) :
    Session.rollback c = executeBatch c "ROLLBACK".toList :=
  if_neg (ne_true_of_eq_false inside)

namespace Transactional

variable (laws : Transactional κ)

include laws

theorem free_of_commit {c u : κ} (h : Session.commit c = (u, .ok ())) : isAutocommit u = true :=
  laws.commit_done h

theorem free_of_rollback (c : κ) : isAutocommit (Session.rollback c).1 = true := by
  cases hc : isAutocommit c with
  | true =>
    rw [rollback_of_free hc]
    exact hc
  | false =>
    rw [rollback_of_inside hc]
    exact laws.rolledBack hc

theorem isAutocommit_of_begin_refused {c u : κ} {e : SessionError}
    (h : Session.begin c = (u, .error e)) : isAutocommit u = isAutocommit c := by
  cases hc : isAutocommit c with
  | true =>
    rw [begin_of_free hc] at h
    exact laws.begin_refused hc h
  | false =>
    rw [begin_of_inside hc] at h
    cases h
    exact hc

end Transactional

namespace Semantics.Lawful

variable {m : Semantics κ ι δ} (laws : m.Lawful)

include laws

theorem control_step {text : Text} {role : Role}
    (h : ∃ st, m.statements text = [st] ∧ m.role st = role) :
    ∃ st, m.role st = role ∧ ∀ c : κ, executeBatch c text = m.step c st := by
  obtain ⟨st, htext, hrole⟩ := h
  exact ⟨st, hrole, fun c => by rw [laws.batch, htext, runEach_singleton]⟩

theorem transactional : Transactional κ where
  begin_refused free refused := by
    obtain ⟨st, hrole, hstep⟩ := laws.control_step laws.begin_text
    rw [hstep] at refused
    exact (laws.failed (by rw [hrole]; decide) refused).2 free
  commit_done done := by
    obtain ⟨st, hrole, hstep⟩ := laws.control_step laws.commit_text
    rw [hstep] at done
    exact (laws.committed hrole done).2.1
  rolledBack inside := by
    obtain ⟨st, hrole, hstep⟩ := laws.control_step laws.rollback_text
    rw [hstep]
    exact (laws.rolledBack _ hrole).1

theorem begin_done {c u : κ} (h : Session.begin c = (u, .ok ())) :
    isAutocommit u = false ∧ m.committed u = m.committed c ∧ m.seen u = m.committed c := by
  obtain ⟨st, hrole, hstep⟩ := laws.control_step laws.begin_text
  rw [begin_of_free (free_of_begin h), hstep] at h
  exact (laws.begun hrole h).2

theorem begin_refused {c u : κ} {e : SessionError} (h : Session.begin c = (u, .error e)) :
    m.committed u = m.committed c := by
  cases hc : isAutocommit c with
  | true =>
    obtain ⟨st, hrole, hstep⟩ := laws.control_step laws.begin_text
    rw [begin_of_free hc, hstep] at h
    exact (laws.failed (by rw [hrole]; decide) h).1
  | false =>
    rw [begin_of_inside hc] at h
    cases h
    rfl

theorem commit_done {c u : κ} (h : Session.commit c = (u, .ok ())) :
    isAutocommit c = false ∧ m.committed u = m.seen c := by
  obtain ⟨st, hrole, hstep⟩ := laws.control_step laws.commit_text
  obtain ⟨inside, -, hcommitted⟩ := laws.committed hrole ((hstep c).symm.trans h)
  exact ⟨inside, hcommitted⟩

theorem commit_refused {c u : κ} {e : SessionError} (h : Session.commit c = (u, .error e)) :
    m.committed u = m.committed c := by
  obtain ⟨st, hrole, hstep⟩ := laws.control_step laws.commit_text
  exact (laws.failed (by rw [hrole]; decide) ((hstep c).symm.trans h)).1

theorem committed_of_rollback (c : κ) :
    m.committed (Session.rollback c).1 = m.committed c := by
  cases hc : isAutocommit c with
  | true => rw [rollback_of_free hc]
  | false =>
    obtain ⟨st, hrole, hstep⟩ := laws.control_step laws.rollback_text
    rw [rollback_of_inside hc, hstep]
    exact (laws.rolledBack c hrole).2

theorem runEach_of_accepts {c u : κ} {sqls : List Text} (h : Accepts c sqls u) :
    runEach m.step c (sqls.flatMap m.statements) = (u, .ok ()) := by
  induction h with
  | nil => rfl
  | @cons c v u sql rest first others ih =>
    have hfirst : runEach m.step c (m.statements sql) = (v, .ok ()) := (laws.batch c sql).symm.trans first
    rw [List.flatMap_cons, runEach_append m.step hfirst]
    exact ih

end Semantics.Lawful

end ScriptReplay.Engine

import Mathlib
import ScriptReplay.Proofs.Engine.Database
import ScriptReplay.Proofs.Replay.FileRuns

/-!
What a script that fails leaves committed. The rollback at its end undoes what the open transaction
holds, and nothing else: changes that a statement of the script has committed, and those made after a
statement has ended the transaction, last.
-/

namespace ScriptReplay.Engine

open Execution

/-- Statements that have changed the content: those whose changes last, and, while a transaction is
open, those whose changes it holds. -/
structure Ledger (ι : Type) where
  lasting : List ι
  held : Option (List ι)
  deriving DecidableEq, Repr

variable {κ ι δ : Type}

namespace Ledger

def begun : Ledger ι where
  lasting := []
  held := some []

def enter (role : ι → Role) (l : Ledger ι) (st : ι) : Ledger ι :=
  match role st with
  | .begin => { l with held := some [] }
  | .commit => ⟨l.lasting ++ l.held.getD [], none⟩
  | .rollback => { l with held := none }
  | .plain =>
    match l.held with
    | some held => { l with held := some (held ++ [st]) }
    | none => { l with lasting := l.lasting ++ [st] }
  | .other => l

theorem lasting_of_held {role : ι → Role} {l : Ledger ι} (hh : l.held ≠ none) {sts : List ι}
    (h : ∀ st ∈ sts, role st ≠ .commit ∧ role st ≠ .rollback) :
    (sts.foldl (enter role) l).lasting = l.lasting := by
  induction sts generalizing l with
  | nil => rfl
  | cons st sts ih =>
    obtain ⟨hc, hr⟩ := h st List.mem_cons_self
    obtain ⟨held, hheld⟩ := Option.ne_none_iff_exists'.mp hh
    have hstep : (enter role l st).lasting = l.lasting ∧ (enter role l st).held ≠ none := by
      unfold enter
      cases hrole : role st with
      | commit => exact absurd hrole hc
      | rollback => exact absurd hrole hr
      | begin => exact ⟨rfl, Option.some_ne_none _⟩
      | plain => simp only [hheld]; exact ⟨trivial, Option.some_ne_none _⟩
      | other => exact ⟨rfl, hh⟩
    exact (ih hstep.2 fun x hx => h x (List.mem_cons_of_mem st hx)).trans hstep.1

end Ledger

namespace Semantics

variable (m : Semantics κ ι δ)

/-- The statements, of these run in a transaction from its beginning, whose changes no rollback takes
back. -/
def lasting (sts : List ι) : List ι :=
  (sts.foldl (Ledger.enter m.role) .begun).lasting

def completed (c : κ) : List ι → List ι
  | [] => []
  | st :: rest =>
    match m.step c st with
    | (u, .ok ()) => st :: completed u rest
    | (_, .error _) => []

def executed [Engine κ] (c : κ) (source : Text) : List ι :=
  match Session.begin c with
  | (t, .ok ()) => m.completed t (m.batch source)
  | (_, .error _) => []

structure Describes [Engine κ] (l : Ledger ι) (origin : δ) (c : κ) : Prop where
  committed : m.applied origin l.lasting = some (m.committed c)
  free : l.held = none → isAutocommit c = true
  inside : ∀ held, l.held = some held →
    isAutocommit c = false ∧ m.applied (m.committed c) held = some (m.seen c)

variable {m}

theorem completed_prefix {c : κ} {sts : List ι} : m.completed c sts <+: sts := by
  induction sts generalizing c with
  | nil => exact List.prefix_rfl
  | cons st sts ih =>
    rcases step_cases m.step c st with ⟨u, hs⟩ | ⟨u, e, hs⟩
    · rw [completed, hs]
      exact List.cons_prefix_cons.mpr ⟨rfl, ih⟩
    · rw [completed, hs]
      exact List.nil_prefix

variable [Engine κ]

namespace Lawful

variable (laws : m.Lawful)

include laws

theorem describes_step {c u : κ} {origin : δ} {l : Ledger ι} {st : ι}
    (known : m.role st ≠ .other) (hl : m.Describes l origin c) (h : m.step c st = (u, .ok ())) :
    m.Describes (l.enter m.role st) origin u := by
  cases hrole : m.role st with
  | other => exact absurd hrole known
  | begin =>
    obtain ⟨-, inside, hcommitted, hseen⟩ := laws.begun hrole h
    have he : l.enter m.role st = { l with held := some [] } := by rw [Ledger.enter, hrole]
    rw [he]
    refine ⟨hcommitted ▸ hl.committed, nofun, ?_⟩
    rintro - ⟨⟩
    exact ⟨inside, by rw [hcommitted, hseen]; rfl⟩
  | commit =>
    obtain ⟨inside, free, hcommitted⟩ := laws.committed hrole h
    have hopen : l.held ≠ none := fun hnone => by
      rw [hl.free hnone] at inside
      cases inside
    obtain ⟨held, hheld⟩ := Option.ne_none_iff_exists'.mp hopen
    have he : l.enter m.role st = ⟨l.lasting ++ held, none⟩ := by
      rw [Ledger.enter, hrole, hheld]
      rfl
    rw [he]
    refine ⟨?_, fun _ => free, nofun⟩
    rw [applied_append hl.committed, (hl.inside held hheld).2, hcommitted]
  | rollback =>
    have hended := laws.rolledBack c hrole
    rw [h] at hended
    have he : l.enter m.role st = { l with held := none } := by rw [Ledger.enter, hrole]
    rw [he]
    exact ⟨hended.2 ▸ hl.committed, fun _ => hended.1, nofun⟩
  | plain =>
    obtain ⟨hauto, happly, hkept⟩ := laws.changed hrole h
    cases hheld : l.held with
    | some held =>
      obtain ⟨inside, hseen⟩ := hl.inside held hheld
      have he : l.enter m.role st = { l with held := some (held ++ [st]) } := by
        simp only [Ledger.enter, hrole, hheld]
      rw [he]
      refine ⟨hkept inside ▸ hl.committed, nofun, ?_⟩
      rintro - ⟨⟩
      refine ⟨hauto.trans inside, ?_⟩
      rw [hkept inside, applied_append hseen, applied_singleton, happly]
    | none =>
      -- In autocommit the step commits the change that it makes.
      have free := hl.free hheld
      have he : l.enter m.role st = { l with lasting := l.lasting ++ [st] } := by
        simp only [Ledger.enter, hrole, hheld]
      rw [he]
      refine ⟨?_, fun _ => hauto.trans free, fun held h => ?_⟩
      · rw [applied_append hl.committed, applied_singleton, ← laws.seen_of_free free, happly,
          laws.seen_of_free (hauto.trans free)]
      · rw [hheld] at h
        cases h

theorem describes_runEach {c u : κ} {origin : δ} {l : Ledger ι} {sts : List ι}
    (known : ∀ st ∈ sts, m.role st ≠ .other) (hl : m.Describes l origin c)
    (h : runEach m.step c sts = (u, .ok ())) :
    m.Describes (sts.foldl (Ledger.enter m.role) l) origin u := by
  induction sts generalizing c l with
  | nil => cases h; exact hl
  | cons st sts ih =>
    obtain ⟨hst, hsts⟩ := List.forall_mem_cons.mp known
    rcases step_cases m.step c st with ⟨v, hs⟩ | ⟨v, e, hs⟩
    · rw [runEach_cons m.step hs] at h
      exact ih hsts (laws.describes_step hst hl hs) h
    · rw [runEach_cons_of_failed m.step hs] at h
      cases h

theorem runEach_completed {c : κ} {sts : List ι} (known : ∀ st ∈ sts, m.role st ≠ .other) :
    ∃ v, runEach m.step c (m.completed c sts) = (v, .ok ()) ∧
      m.committed (runEach m.step c sts).1 = m.committed v := by
  induction sts generalizing c with
  | nil => exact ⟨c, rfl, rfl⟩
  | cons st sts ih =>
    obtain ⟨hst, hsts⟩ := List.forall_mem_cons.mp known
    rcases step_cases m.step c st with ⟨v, hs⟩ | ⟨v, e, hs⟩
    · obtain ⟨w, hw, hcommitted⟩ := ih (c := v) hsts
      rw [completed, hs, runEach_cons m.step hs, runEach_cons m.step hs]
      exact ⟨w, hw, hcommitted⟩
    · rw [completed, hs, runEach_cons_of_failed m.step hs]
      exact ⟨c, rfl, (laws.failed hst hs).1⟩

theorem course_failed {c u : κ} {sqls : List Text} {e : ReplayError}
    (hc : Course c sqls u (.error e)) :
    (∃ t refusal, Session.begin c = (t, .error refusal) ∧ m.committed u = m.committed c) ∨
      ∃ t, Session.begin c = (t, .ok ()) ∧
        m.committed u = m.committed (runEach m.step t (sqls.flatMap m.statements)).1 := by
  cases hc with
  | beginRefused refused => exact .inl ⟨_, _, refused, laws.begin_refused refused⟩
  | @statementFailed t v w first rest sql e begun split accepted failed =>
    have hlast : runEach m.step v (m.statements sql) = (w, .error e) :=
      (laws.batch v sql).symm.trans failed
    refine .inr ⟨t, begun, ?_⟩
    rw [split, List.flatMap_append, runEach_append m.step (laws.runEach_of_accepts accepted),
      List.flatMap_cons, runEach_append_of_failed m.step hlast]
    exact laws.committed_of_rollback w
  | @commitRefused t v w e begun accepted refused =>
    refine .inr ⟨t, begun, ?_⟩
    rw [laws.runEach_of_accepts accepted]
    exact (laws.committed_of_rollback w).trans (laws.commit_refused refused)

theorem describes_begun {c t : κ} (h : Session.begin c = (t, .ok ())) :
    m.Describes .begun (m.committed c) t := by
  obtain ⟨inside, hcommitted, hseen⟩ := laws.begin_done h
  refine ⟨congrArg some hcommitted.symm, nofun, ?_⟩
  rintro - ⟨⟩
  exact ⟨inside, congrArg some (hcommitted.trans hseen.symm)⟩

theorem applied_lasting {c : κ} {source : Text} {e : ReplayError}
    (known : ∀ st ∈ m.batch source, m.role st ≠ .other)
    (failed : (executeScript c source).result = .error e) :
    m.applied (m.committed c) (m.lasting (m.executed c source)) =
      some (m.committed (executeScript c source).session) := by
  have hn : (Script.read source).statements ≠ [] := by
    intro hn
    rw [(Replay.executeScript_blank (s := c) hn).2] at failed
    cases failed
  obtain ⟨hs, hr⟩ := Replay.executeScript_statements (s := c) hn
  have hcourse := executeAll_course c (Script.read source).statements
  rw [hr] at failed
  cases hanswer : (executeAll c (Script.read source).statements).result with
  | ok _ =>
    rw [hanswer] at failed
    cases failed
  | error _ =>
    rw [hanswer] at hcourse
    rw [hs]
    rcases laws.course_failed hcourse with ⟨t, refusal, refused, hkept⟩ | ⟨t, begun, hleft⟩
    · rw [executed, refused, hkept]
      rfl
    · obtain ⟨v, hv, hcommitted⟩ := laws.runEach_completed (c := t) known
      have hdone : m.completed t (m.batch source) <+: m.batch source := completed_prefix
      have hknown := fun st hst => known st (hdone.subset hst)
      rw [executed, begun]
      exact (laws.describes_runEach hknown (laws.describes_begun begun) hv).committed.trans
        (congrArg some (hcommitted.symm.trans hleft.symm))

end Lawful

end Semantics

/-- After a script that fails, the committed content is the one from before with the lasting
statements among its executed ones applied. So no count of it has changed exactly if these come to
nothing, as they do where no statement of the script has ended a transaction. -/
theorem executeScript_failed_committed {m : Semantics κ ι δ} [Engine κ] (laws : m.Lawful) {c : κ}
    {source : Text} {e : ReplayError} (known : ∀ st ∈ m.batch source, m.role st ≠ .other)
    (failed : (executeScript c source).result = .error e) :
    let ran := executeScript c source
    let done := m.executed c source
    m.applied (m.committed c) (m.lasting done) = some (m.committed ran.session) ∧
      (∀ (γ : Type) (counts : δ → γ),
        counts (m.committed ran.session) = counts (m.committed c) ↔
          (m.applied (m.committed c) (m.lasting done)).map counts =
            some (counts (m.committed c))) ∧
      ((∀ st ∈ done, m.role st ≠ .commit ∧ m.role st ≠ .rollback) →
        m.committed ran.session = m.committed c) := by
  intro ran done
  have happlied := laws.applied_lasting known failed
  refine ⟨happlied, fun γ counts => ?_, fun hkept => ?_⟩
  · rw [happlied]
    exact ⟨congrArg some, Option.some.inj⟩
  · have hnone : m.lasting done = [] := Ledger.lasting_of_held (Option.some_ne_none _) hkept
    rw [hnone] at happlied
    exact (Option.some.inj happlied).symm

def ownTransactions : Text :=
  "CREATE TABLE A (ID INTEGER);COMMIT;BEGIN;DROP TABLE A;INSERT INTO A VALUES (1)".toList

theorem executeScript_failed_committed_ownTransactions :
    let db := Database.fresh "db"
    let m := Database.semantics
    let ran := executeScript db ownTransactions
    let missing := ReplayError.ofStatement 5 "INSERT INTO A VALUES (1)".toList (noSuchTable ['A'])
    let done := m.executed db ownTransactions
    m.Lawful ∧ (∀ st ∈ m.batch ownTransactions, m.role st ≠ .other) ∧
      ran.result = .error missing ∧
      done.map (·.source) = ["CREATE TABLE A (ID INTEGER)".toList, "COMMIT".toList, "BEGIN".toList,
        "DROP TABLE A".toList] ∧
      (m.lasting done).map (·.source) = ["CREATE TABLE A (ID INTEGER)".toList] ∧
      m.applied (m.committed db) (m.lasting done) = some (m.committed ran.session) := by
  intro db m ran missing done
  have hknown : ∀ st ∈ m.batch ownTransactions, m.role st ≠ .other := by decide +kernel
  have hfailed : ran.result = .error missing := by decide +kernel
  have hcommitted := (executeScript_failed_committed Database.lawful_semantics hknown hfailed).1
  exact ⟨Database.lawful_semantics, hknown, hfailed, by decide +kernel, by decide +kernel, hcommitted⟩

theorem executeScript_of_ownCommit :
    let db := Database.fresh "db"
    let source := "CREATE TABLE A (ID INTEGER);COMMIT;BOGUS;".toList
    let ran := executeScript db source
    isAutocommit db = true ∧ db.committed.counts = [] ∧
      (∃ st ∈ Database.semantics.batch source, Database.semantics.role st = .commit) ∧
      ran.result = .error (.ofStatement 3 "BOGUS".toList
        (sqlErrorAt "near \"BOGUS\": syntax error" "BOGUS".toList 0)) ∧
      ran.session.committed.counts = [(['A'], 0)] := by
  intro db source ran
  exact ⟨rfl, by decide +kernel, by decide +kernel, by decide +kernel, by decide +kernel⟩

end ScriptReplay.Engine

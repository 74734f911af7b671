import Mathlib
import ScriptReplay.Proofs.Engine.Database
import ScriptReplay.Proofs.Replay.FileRuns

namespace ScriptReplay.Engine

open Execution

variable {κ : Type} [Engine κ]

theorem course_isAutocommit (laws : Transactional κ) {c u : κ} {sqls : List Text}
    {answer : Except ReplayError Unit} (h : Course c sqls u answer) :
    isAutocommit u = isAutocommit c := by
  cases h with
  | beginRefused refused => exact laws.isAutocommit_of_begin_refused refused
  | statementFailed begun => rw [laws.free_of_rollback, free_of_begin begun]
  | commitRefused begun => rw [laws.free_of_rollback, free_of_begin begun]
  | committed begun accepted done => rw [laws.free_of_commit done, free_of_begin begun]

theorem executeAll_of_inside {c : κ} (inside : isAutocommit c = false) (sqls : List Text) :
    executeAll c sqls = ⟨c, [], .error (.transaction nestedBegin)⟩ := by
  rw [executeAll, begin_of_inside inside]

theorem isAutocommit_executeScript (laws : Transactional κ) (c : κ) (source : Text) :
    isAutocommit (executeScript c source).session = isAutocommit c := by
  by_cases hn : (Script.read source).statements = []
  · rw [(Replay.executeScript_blank hn).1]
  · rw [(Replay.executeScript_statements hn).1]
    exact course_isAutocommit laws (executeAll_course c _)

/-- A transaction is open after a script exactly if one was open before it. In that case a script
with statements fails and executes none of them, and the connection is left as it was. -/
theorem executeScript_inTransaction (laws : Transactional κ) (c : κ) (source : Text) :
    let ran := executeScript c source
    isAutocommit ran.session = isAutocommit c ∧
      (isAutocommit c = false → (Script.read source).statements ≠ [] →
        ran.result = .error (.transaction nestedBegin) ∧ ran.session = c ∧
          ∀ index, .executing index ∉ ran.journal) := by
  intro ran
  refine ⟨isAutocommit_executeScript laws c source, fun inside hn => ?_⟩
  have hall := executeAll_of_inside inside (Script.read source).statements
  simp only [ran, executeScript, if_neg hn, hall]
  refine ⟨rfl, trivial, fun index hmem => ?_⟩
  rw [List.append_nil] at hmem
  obtain ⟨effect, -, hnote⟩ := List.mem_map.mp hmem
  cases hnote

/-- A database that someone else reads meanwhile: what a transaction has changed cannot be committed,
and the transaction stays open. -/
structure Watched where
  database : Database
  deriving DecidableEq, Repr

def locked : SessionError :=
  .sqlite 5 (some "database is locked")

instance : Engine Watched where
  isAutocommit w := isAutocommit w.database
  executeBatch w sql :=
    if sql = "COMMIT".toList ∧ w.database.working.any (·.isChanged) then (w, .error locked)
    else
      let (db, answer) := executeBatch w.database sql
      (⟨db⟩, answer)
  describe w := describe w.database
  inTree w := inTree w.database

theorem transactional_watched : Transactional Watched where
  begin_refused := by
    intro w u e free refused
    exact Database.lawful_semantics.transactional.begin_refused free
      (congrArg (Prod.map Watched.database id) refused)
  commit_done := by
    intro w u done
    change (if _ then _ else _) = _ at done
    split at done
    · cases done
    · exact Database.lawful_semantics.transactional.commit_done
        (congrArg (Prod.map Watched.database id) done)
  rolledBack := by
    intro w inside
    exact Database.lawful_semantics.transactional.rolledBack inside

def changedInside : Watched where
  database :=
    { Database.fresh "db" with working := some ⟨⟨.utf8, [⟨['T'], false, [['I']], [], 1⟩]⟩, true⟩ }

theorem executeScript_inTransaction_watched :
    let idle : Watched := ⟨Database.fresh "db"⟩
    let made := executeScript idle "CREATE TABLE A (ID INTEGER)".toList
    let source := "COMMIT; DROP TABLE T; BEGIN".toList
    let ran := executeScript changedInside source
    Transactional Watched ∧ isAutocommit idle = true ∧
      made.result = .error (.transaction locked) ∧ isAutocommit made.session = true ∧
      isAutocommit changedInside = false ∧ (Script.read source).statements ≠ [] ∧
      ran.result = .error (.transaction nestedBegin) ∧ ran.session = changedInside := by
  intro idle made source ran
  have hrefused : made.result = .error (.transaction locked) := by decide +kernel
  have hended := (executeScript_inTransaction transactional_watched idle
    "CREATE TABLE A (ID INTEGER)".toList).1
  have hn : (Script.read source).statements ≠ [] := by decide +kernel
  obtain ⟨hresult, hsession, -⟩ :=
    (executeScript_inTransaction transactional_watched changedInside source).2 rfl hn
  exact ⟨transactional_watched, rfl, hrefused, hended, rfl, hn, hresult, hsession⟩

end ScriptReplay.Engine

import Mathlib
import ScriptReplay.Proofs.Rehearsal.Exits
import ScriptReplay.Proofs.Replay.FileRuns

namespace ScriptReplay.Rehearsal

structure Settled (s : Rehearsal) : Prop where
  pending_eq : s.pending = []
  rollbacks_eq : s.refusals.rollbacks = []

theorem settled_record {s : Rehearsal} (h : s.Settled) (e : Event) : (s.record e).Settled :=
  ⟨h.pending_eq, h.rollbacks_eq⟩

theorem settled_rollback {s : Rehearsal} (h : s.refusals.rollbacks = []) : s.rollback.1.Settled := by
  have hn : s.callNumber .rollback ∉ s.refusals.rollbacks := by simp [h]
  rw [rollback_granted hn]
  exact ⟨rfl, h⟩

theorem exits_settled {s u : Rehearsal} {sqls : List Text} {answer : Except ReplayError Unit}
    (hs : s.Settled) (h : Exits s sqls u answer) : u.Settled := by
  cases h with
  | beginRefused => exact settled_record hs .begin
  | statementRejected => exact settled_rollback hs.rollbacks_eq
  | commitRefused => exact settled_rollback hs.rollbacks_eq
  | committed => exact ⟨rfl, hs.rollbacks_eq⟩

theorem exits_committed {s u : Rehearsal} {sqls : List Text} {answer : Except ReplayError Unit}
    (hs : s.Settled) (h : Exits s sqls u answer) :
    (answer = .ok () ∧ u.committed = s.committed ++ sqls) ∨
      ((∃ e, answer = .error e) ∧ u.committed = s.committed) := by
  cases h with
  | beginRefused => exact .inr ⟨⟨_, rfl⟩, rfl⟩
  | statementRejected => exact .inr ⟨⟨_, rfl⟩, rollback_committed _⟩
  | commitRefused => exact .inr ⟨⟨_, rfl⟩, rollback_committed _⟩
  | committed => exact .inl ⟨rfl, by rw [hs.pending_eq, List.nil_append]⟩

end ScriptReplay.Rehearsal

namespace ScriptReplay.Replay

open Rehearsal Execution

def statementsOf (t : Tree) (p : Path) : List Text :=
  match t.readText p with
  | .error _ => []
  | .ok source => (Script.read source).statements

theorem executeScript_settled {s : Rehearsal} (hs : s.Settled) (source : Text) :
    let ran := executeScript s source
    let statements := (Script.read source).statements
    ran.session.Settled ∧
      ((ran.result = .ok statements.length ∧
          ran.session.committed = s.committed ++ statements) ∨
        ((∃ e, ran.result = .error e) ∧ ran.session.committed = s.committed)) := by
  intro ran statements
  by_cases hn : statements = []
  · obtain ⟨hsession, hresult⟩ := executeScript_blank (s := s) hn
    rw [hsession, hresult, hn]
    exact ⟨hs, .inl ⟨rfl, (List.append_nil _).symm⟩⟩
  · obtain ⟨hsession, hresult⟩ := executeScript_statements (s := s) hn
    have h := executeAll_exits s statements
    rw [hsession, hresult]
    refine ⟨exits_settled hs h, ?_⟩
    rcases exits_committed hs h with ⟨ha, hc⟩ | ⟨⟨e, ha⟩, hc⟩
    · exact .inl ⟨by rw [ha]; rfl, hc⟩
    · exact .inr ⟨⟨e, by rw [ha]; rfl⟩, hc⟩

theorem runFile_settled (t : Tree) {s : Rehearsal} (p : Path) (hs : s.Settled) :
    let ran := runFile t s p
    ran.session.Settled ∧
      ((ran.result.outcome = .allCommitted (statementsOf t p).length ∧
          ran.session.committed = s.committed ++ statementsOf t p) ∨
        (ran.result.outcome.isSuccess = false ∧ ran.session.committed = s.committed)) := by
  intro ran
  cases h : t.readText p with
  | error e =>
    obtain ⟨hsession, houtcome⟩ := runFile_unreadable (s := s) h
    rw [hsession, houtcome]
    exact ⟨hs, .inr ⟨rfl, rfl⟩⟩
  | ok source =>
    obtain ⟨hsession, houtcome⟩ := runFile_readable (s := s) h
    have hstatements : statementsOf t p = (Script.read source).statements := by
      rw [statementsOf, h]
    rw [hsession, houtcome, hstatements]
    obtain ⟨hset, ⟨hr, hc⟩ | ⟨⟨e, hr⟩, hc⟩⟩ := executeScript_settled hs source
    · exact ⟨hset, .inl ⟨by rw [hr]; rfl, hc⟩⟩
    · exact ⟨hset, .inr ⟨by rw [hr]; rfl, hc⟩⟩

structure Atomic (t : Tree) (r : FileRun Rehearsal) : Prop where
  pending_eq : r.after.pending = []
  committed_of_success (n : Nat) : r.report.outcome = .allCommitted n →
    n = (statementsOf t r.path).length ∧
      r.after.committed = r.before.committed ++ statementsOf t r.path
  committed_of_failure : r.report.outcome.isSuccess = false → r.after.committed = r.before.committed

theorem runFile_atomic (t : Tree) {s : Rehearsal} (p : Path) (hs : s.Settled) :
    Atomic t ⟨p, s, (runFile t s p).session, (runFile t s p).result⟩ := by
  obtain ⟨hset, ⟨ho, hc⟩ | ⟨ho, hc⟩⟩ := runFile_settled t p hs
  · refine ⟨hset.pending_eq, ?_, ?_⟩
    · intro n hn
      rw [ho] at hn
      cases hn
      exact ⟨rfl, hc⟩
    · intro hn
      rw [ho] at hn
      cases hn
  · refine ⟨hset.pending_eq, ?_, fun _ => hc⟩
    intro n hn
    rw [hn] at ho
    cases ho

def committedOf (t : Tree) (runs : List (FileRun Rehearsal)) : List Text :=
  (runs.filter (·.report.outcome.isSuccess)).flatMap fun r => statementsOf t r.path

theorem committedOf_cons {t : Tree} {r : FileRun Rehearsal} (h : Atomic t r)
    (rs : List (FileRun Rehearsal)) :
    r.after.committed ++ committedOf t rs = r.before.committed ++ committedOf t (r :: rs) := by
  unfold committedOf
  cases ho : r.report.outcome with
  | allCommitted n =>
    have hs : r.report.outcome.isSuccess = true := by rw [ho]; rfl
    rw [List.filter_cons_of_pos (by exact hs), List.flatMap_cons, (h.committed_of_success n ho).2,
      List.append_assoc]
  | rolledBack e | parseFailed e =>
    have hs : r.report.outcome.isSuccess = false := by rw [ho]; rfl
    rw [List.filter_cons_of_neg (by rw [hs]; exact Bool.false_ne_true), h.committed_of_failure hs]

theorem fileRuns_atomic (t : Tree) {s : Rehearsal} (ps : List Path) (hs : s.Settled) :
    (∀ r ∈ fileRuns t s ps, Atomic t r) ∧
      (sessionAfter s (fileRuns t s ps)).committed =
        s.committed ++ committedOf t (fileRuns t s ps) := by
  induction ps generalizing s with
  | nil => exact ⟨by simp [fileRuns], (List.append_nil _).symm⟩
  | cons p ps ih =>
    have hfirst := runFile_atomic t p hs
    obtain ⟨hrest, hcommitted⟩ := ih (runFile_settled t p hs).1
    constructor
    · intro r hr
      rcases List.mem_cons.mp hr with rfl | hr
      · exact hfirst
      · exact hrest r hr
    · exact hcommitted.trans (committedOf_cons hfirst _)

theorem runCategories_committed (t : Tree) (c : Config) (dir : Path) (s : Rehearsal)
    (hp : s.pending = []) (hr : s.refusals.rollbacks = []) :
    let ran := runCategories t c dir s
    let extension := withoutLeadingDots (extensionBytes c)
    let runs := fileRuns t s (scriptsInOrder t dir extension c.categories)
    ran.session = sessionAfter s runs ∧
      ran.result.flatMap (·.files) = runs.map (·.report) ∧
      ran.session.committed = s.committed ++
        (runs.filter (·.report.outcome.isSuccess)).flatMap (fun r => statementsOf t r.path) ∧
      ∀ r ∈ runs, r.after.pending = [] ∧
        (∀ n, r.report.outcome = .allCommitted n →
          n = (statementsOf t r.path).length ∧
            r.after.committed = r.before.committed ++ statementsOf t r.path) ∧
        (r.report.outcome.isSuccess = false → r.after.committed = r.before.committed) := by
  intro ran extension runs
  obtain ⟨hsession, hreports⟩ := runEach_eq_fileRuns t dir extension s c.categories
  obtain ⟨hall, hcommitted⟩ :=
    fileRuns_atomic t (scriptsInOrder t dir extension c.categories) ⟨hp, hr⟩
  refine ⟨hsession, hreports, ?_, ?_⟩
  · exact (congrArg Rehearsal.committed hsession).trans hcommitted
  · intro r hmem
    have h := hall r hmem
    exact ⟨h.pending_eq, h.committed_of_success, h.committed_of_failure⟩

def threeScripts : Tree where
  -- `1.s`, `2.s` and `3.s` below `t` hold `A;`, `B;X;` and `C;`.
  nodes := [([[0x74]], .directory), ([[0x74], [0x31, 0x2E, 0x73]], .file (.bytes [0x41, 0x3B])),
    ([[0x74], [0x32, 0x2E, 0x73]], .file (.bytes [0x42, 0x3B, 0x58, 0x3B])),
    ([[0x74], [0x33, 0x2E, 0x73]], .file (.bytes [0x43, 0x3B]))]
  here := []

def threeScriptsConfig : Config :=
  { Config.standard with categories := ["t", "absent"], extension := ".s" }

def refusingRehearsal : Rehearsal :=
  { Rehearsal.fresh ⟨[['X']], [], [2], []⟩ with committed := [['Z']] }

theorem runCategories_committed_threeScripts :
    let files : List Path := [[0x2E, 0x2F, 0x74, 0x2F, 0x31, 0x2E, 0x73],
      [0x2E, 0x2F, 0x74, 0x2F, 0x32, 0x2E, 0x73], [0x2E, 0x2F, 0x74, 0x2F, 0x33, 0x2E, 0x73]]
    let runs := fileRuns threeScripts refusingRehearsal files
    refusingRehearsal.pending = [] ∧ refusingRehearsal.refusals.rollbacks = [] ∧
      files.map (statementsOf threeScripts) = [[['A']], [['B'], ['X']], [['C']]] ∧
      [['Z'], ['A']] = refusingRehearsal.committed ++
        (runs.filter (·.report.outcome.isSuccess)).flatMap
          (fun r => statementsOf threeScripts r.path) := by
  intro files runs
  obtain ⟨hsession, -, hcommitted, -⟩ := runCategories_committed threeScripts threeScriptsConfig
    [0x2E] refusingRehearsal rfl rfl
  have hfiles : scriptsInOrder threeScripts [0x2E]
      (withoutLeadingDots (extensionBytes threeScriptsConfig)) threeScriptsConfig.categories =
        files := by cbv
  rw [hfiles] at hsession hcommitted
  refine ⟨rfl, rfl, by cbv, ?_⟩
  rw [← hcommitted, hsession, eq_comm]
  have first : threeScripts.readText [0x2E, 0x2F, 0x74, 0x2F, 0x31, 0x2E, 0x73] =
      .ok ['A', ';'] := by cbv
  have second : threeScripts.readText [0x2E, 0x2F, 0x74, 0x2F, 0x32, 0x2E, 0x73] =
      .ok ['B', ';', 'X', ';'] := by cbv
  have third : threeScripts.readText [0x2E, 0x2F, 0x74, 0x2F, 0x33, 0x2E, 0x73] =
      .ok ['C', ';'] := by cbv
  change (runFile threeScripts (runFile threeScripts (runFile threeScripts refusingRehearsal
    _).session _).session _).session.committed = _
  rw [(runFile_readable third).1, (runFile_readable second).1, (runFile_readable first).1]
  cbv

end ScriptReplay.Replay

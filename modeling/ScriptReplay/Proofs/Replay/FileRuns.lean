import ScriptReplay.Proofs.Listing.Selection

namespace ScriptReplay.Replay

def scriptsInOrder (t : Tree) (dir : Path) (extension : Bytes) (categories : List String) :
    List Path :=
  categories.flatMap fun category =>
    match categoryScripts t dir category extension with
    | .error _ => []
    | .ok files => files

structure FileRun (σ : Type) where
  path : Path
  before : σ
  after : σ
  report : FileReport

def sessionAfter {σ : Type} (s : σ) : List (FileRun σ) → σ
  | [] => s
  | r :: rs => sessionAfter r.after rs

theorem sessionAfter_append {σ : Type} (s : σ) (rs qs : List (FileRun σ)) :
    sessionAfter s (rs ++ qs) = sessionAfter (sessionAfter s rs) qs := by
  induction rs generalizing s with
  | nil => rfl
  | cons r rs ih => exact ih r.after

variable {σ : Type} [Session σ]

def fileRuns (t : Tree) (s : σ) : List Path → List (FileRun σ)
  | [] => []
  | p :: ps =>
    let ran := runFile t s p
    ⟨p, s, ran.session, ran.result⟩ :: fileRuns t ran.session ps

def outcomeOf : Except ReplayError Nat → Outcome
  | .ok statements => .allCommitted statements
  | .error e => .rolledBack e.message

theorem runFile_file (t : Tree) (s : σ) (p : Path) :
    (runFile t s p).result.file = reportedName p := by
  unfold runFile
  split
  · rfl
  · simp only
    split <;> rfl

theorem runFile_unreadable {t : Tree} {s : σ} {p : Path} {e : FileError}
    (h : (Session.inTree s t).readText p = .error e) :
    (runFile t s p).session = s ∧
      (runFile t s p).result.outcome = .parseFailed (ReplayError.file e).message := by
  unfold runFile
  rw [h]
  exact ⟨rfl, rfl⟩

theorem runFile_readable {t : Tree} {s : σ} {p : Path} {source : Text}
    (h : (Session.inTree s t).readText p = .ok source) :
    (runFile t s p).session = (Execution.executeScript s source).session ∧
      (runFile t s p).result.outcome = outcomeOf (Execution.executeScript s source).result := by
  unfold runFile
  rw [h]
  cases hr : (Execution.executeScript s source).result with
  | ok statements => simp only [hr]; exact ⟨trivial, rfl⟩
  | error e => simp only [hr]; exact ⟨trivial, rfl⟩

theorem executeScript_blank {s : σ} {source : Text} (h : (Script.read source).statements = []) :
    (Execution.executeScript s source).session = s ∧
      (Execution.executeScript s source).result = .ok 0 := by
  simp only [Execution.executeScript, if_pos h]
  exact ⟨trivial, trivial⟩

theorem executeScript_statements {s : σ} {source : Text}
    (h : (Script.read source).statements ≠ []) :
    (Execution.executeScript s source).session =
        (Execution.executeAll s (Script.read source).statements).session ∧
      (Execution.executeScript s source).result =
        (Execution.executeAll s (Script.read source).statements).result.map
          fun _ => (Script.read source).statements.length := by
  simp only [Execution.executeScript, if_neg h]
  exact ⟨trivial, trivial⟩

theorem fileRuns_append (t : Tree) (s : σ) (ps qs : List Path) :
    fileRuns t s (ps ++ qs) =
      fileRuns t s ps ++ fileRuns t (sessionAfter s (fileRuns t s ps)) qs := by
  induction ps generalizing s with
  | nil => rfl
  | cons p ps ih => simp only [List.cons_append, fileRuns, sessionAfter, ih]

theorem fileRuns_eq_append {t : Tree} {s : σ} {ps : List Path} {rs qs : List (FileRun σ)}
    (h : fileRuns t s ps = rs ++ qs) :
    ∃ first rest, rs = fileRuns t s first ∧ qs = fileRuns t (sessionAfter s rs) rest := by
  induction rs generalizing s ps with
  | nil => exact ⟨[], ps, rfl, h.symm⟩
  | cons r rs ih =>
    cases ps with
    | nil => cases h
    | cons p ps =>
      obtain ⟨rfl, hrest⟩ := List.cons.inj h
      obtain ⟨first, rest, hf, hr⟩ := ih hrest
      exact ⟨p :: first, rest, congrArg _ hf, hr⟩

theorem before_eq_sessionAfter {t : Tree} {s : σ} {ps : List Path} {rs qs : List (FileRun σ)}
    {r : FileRun σ} (h : fileRuns t s ps = rs ++ r :: qs) : r.before = sessionAfter s rs := by
  obtain ⟨first, rest, -, hr⟩ := fileRuns_eq_append h
  cases rest with
  | nil => cases hr
  | cons p rest =>
    obtain ⟨rfl, -⟩ := List.cons.inj hr
    rfl

theorem exists_fileRuns_behind {t : Tree} {s : σ} {ps : List Path} {rs qs : List (FileRun σ)}
    {r : FileRun σ} (h : fileRuns t s ps = rs ++ r :: qs) :
    ∃ rest, fileRuns t r.after rest = qs := by
  obtain ⟨first, rest, -, hr⟩ := fileRuns_eq_append h
  cases rest with
  | nil => cases hr
  | cons p rest =>
    obtain ⟨rfl, hqs⟩ := List.cons.inj hr
    exact ⟨rest, hqs.symm⟩

theorem runFiles_eq_fileRuns (t : Tree) (s : σ) (ps : List Path) :
    (runFiles t s ps).session = sessionAfter s (fileRuns t s ps) ∧
      (runFiles t s ps).result = (fileRuns t s ps).map (·.report) := by
  induction ps generalizing s with
  | nil => exact ⟨rfl, rfl⟩
  | cons p ps ih =>
    obtain ⟨hs, hr⟩ := ih (runFile t s p).session
    simp only [runFiles, fileRuns, sessionAfter, List.map_cons, hs, hr]
    exact ⟨trivial, trivial⟩

theorem recordAll_files (summary : Summary) (rs : List FileReport) :
    (summary.recordAll rs).files = summary.files ++ rs := by
  induction rs generalizing summary with
  | nil => simp [Summary.recordAll]
  | cons r rs ih =>
    have hr : (summary.record r).files = summary.files ++ [r] := by
      unfold Summary.record
      split <;> rfl
    have h := ih (summary.record r)
    rw [hr, List.append_assoc] at h
    exact h

theorem recordAll_about (summary : Summary) (rs : List FileReport) :
    (summary.recordAll rs).category = summary.category ∧
      (summary.recordAll rs).status = summary.status := by
  induction rs generalizing summary with
  | nil => exact ⟨rfl, rfl⟩
  | cons r rs ih =>
    have hr : (summary.record r).category = summary.category ∧
        (summary.record r).status = summary.status := by
      unfold Summary.record
      split <;> exact ⟨rfl, rfl⟩
    obtain ⟨hc, hs⟩ := ih (summary.record r)
    exact ⟨hc.trans hr.1, hs.trans hr.2⟩

theorem runCategory_eq_fileRuns (t : Tree) (dir : Path) (extension : Bytes) (s : σ)
    (category : String) :
    (runCategory t dir extension s category).session =
        sessionAfter s (fileRuns t s (scriptsInOrder t dir extension [category])) ∧
      (runCategory t dir extension s category).result.files =
        (fileRuns t s (scriptsInOrder t dir extension [category])).map (·.report) := by
  unfold runCategory scriptsInOrder
  cases h : categoryScripts t dir category extension with
  | error summary =>
    simp [h, fileRuns, sessionAfter, files_of_skipped h]
  | ok files =>
    obtain ⟨hs, hr⟩ := runFiles_eq_fileRuns t s files
    simp [h, hs, hr, recordAll_files, Summary.started, Summary.skipped]

theorem runEach_eq_fileRuns (t : Tree) (dir : Path) (extension : Bytes) (s : σ)
    (categories : List String) :
    (runEach t dir extension s categories).session =
        sessionAfter s (fileRuns t s (scriptsInOrder t dir extension categories)) ∧
      (runEach t dir extension s categories).result.flatMap (·.files) =
        (fileRuns t s (scriptsInOrder t dir extension categories)).map (·.report) := by
  induction categories generalizing s with
  | nil => exact ⟨rfl, rfl⟩
  | cons category rest ih =>
    obtain ⟨hs, hr⟩ := runCategory_eq_fileRuns t dir extension s category
    obtain ⟨hs', hr'⟩ := ih (runCategory t dir extension s category).session
    have hsplit : scriptsInOrder t dir extension (category :: rest) =
        scriptsInOrder t dir extension [category] ++ scriptsInOrder t dir extension rest := by
      simp [scriptsInOrder]
    rw [hs] at hs' hr'
    rw [hsplit, fileRuns_append, sessionAfter_append, List.map_append, ← hr, ← hr']
    exact ⟨by rw [← hs']; simp only [runEach, hs], by simp only [runEach, List.flatMap_cons, hs]⟩

end ScriptReplay.Replay

import Mathlib
import ScriptReplay.Proofs.Listing.Selection
import ScriptReplay.Proofs.Replay.FileRuns
import ScriptReplay.Proofs.Replay.LeadingDots
import ScriptReplay.Proofs.Tree.LastName
import ScriptReplay.Session.Rehearsal

namespace ScriptReplay

namespace Replay

/-- What the report of a file that was only read says of the report of a run of it. -/
structure Foretells (dry real : FileReport) : Prop where
  file_eq : dry.file = real.file
  parseFailed_iff (e : String) : dry.outcome = .parseFailed e ↔ real.outcome = .parseFailed e
  allCommitted (n : Nat) : real.outcome = .allCommitted n → dry.outcome = .allCommitted n

structure ForetellsAll (dry real : Summary) : Prop where
  category_eq : dry.category = real.category
  status_eq : dry.status = real.status
  files : List.Forall₂ Foretells dry.files real.files

theorem parseReport_file {t : Tree} {p : Path} (h : t.isFile p = true) :
    (parseReport t p).result.file = reportedName p := by
  obtain ⟨n, hn⟩ := Tree.fileName?_of_isFile h
  unfold parseReport reportedName
  simp only [hn]
  split <;> rfl

theorem parseReport_unreadable {t : Tree} {p : Path} {e : FileError} (h : t.readText p = .error e) :
    (parseReport t p).result.outcome = .parseFailed (ReplayError.file e).message := by
  simp only [parseReport, parseFile, h]

theorem parseReport_readable {t : Tree} {p : Path} {source : Text} (h : t.readText p = .ok source) :
    (parseReport t p).result.outcome = .allCommitted (Script.read source).statements.length := by
  simp only [parseReport, parseFile, h]

section

variable {σ : Type} [Session σ]

theorem outcome_of_executeScript (s : σ) (source : Text) :
    outcomeOf (Execution.executeScript s source).result =
        .allCommitted (Script.read source).statements.length ∨
      ∃ e, outcomeOf (Execution.executeScript s source).result = .rolledBack e := by
  by_cases h : (Script.read source).statements = []
  · rw [(executeScript_blank h).2, h]
    exact .inl rfl
  · rw [(executeScript_statements h).2]
    cases (Execution.executeAll s (Script.read source).statements).result with
    | ok _ => exact .inl rfl
    | error e => exact .inr ⟨e.message, rfl⟩

theorem foretells_runFile {t : Tree} {s : σ} (hs : Session.inTree s t = t) {p : Path}
    (h : t.isFile p = true) : Foretells (parseReport t p).result (runFile t s p).result := by
  have hfile : (parseReport t p).result.file = (runFile t s p).result.file := by
    rw [parseReport_file h, runFile_file]
  cases hread : t.readText p with
  | error e =>
    have hrun : (Session.inTree s t).readText p = .error e := by rw [hs, hread]
    have hreal := (runFile_unreadable hrun).2
    have hdry := parseReport_unreadable hread
    refine ⟨hfile, fun e' => by rw [hdry, hreal], fun n hn => ?_⟩
    rw [hreal] at hn
    cases hn
  | ok source =>
    have hrun : (Session.inTree s t).readText p = .ok source := by rw [hs, hread]
    have hreal := (runFile_readable hrun).2
    have hdry := parseReport_readable hread
    rcases outcome_of_executeScript s source with ho | ⟨e, ho⟩
    · rw [ho] at hreal
      refine ⟨hfile, fun e' => by rw [hdry, hreal], fun n hn => ?_⟩
      rw [hdry, ← hreal, hn]
    · rw [ho] at hreal
      refine ⟨hfile, fun e' => by simp [hdry, hreal], fun n hn => ?_⟩
      rw [hreal] at hn
      cases hn

theorem foretells_runFiles {t : Tree} (ht : ∀ s : σ, Session.inTree s t = t) (s : σ)
    {ps : List Path} (h : ∀ p ∈ ps, t.isFile p = true) :
    List.Forall₂ Foretells ((ps.map (parseReport t)).map (·.result)) (runFiles t s ps).result := by
  induction ps generalizing s with
  | nil => exact .nil
  | cons p ps ih =>
    obtain ⟨hp, hps⟩ := List.forall_mem_cons.mp h
    exact .cons (foretells_runFile (ht s) hp) (ih (runFile t s p).session hps)

theorem foretells_recordAll (summary : Summary) (hnone : summary.files = [])
    {dry real : List FileReport} (h : List.Forall₂ Foretells dry real) :
    ForetellsAll (summary.recordAll dry) (summary.recordAll real) := by
  obtain ⟨hcd, hsd⟩ := recordAll_about summary dry
  obtain ⟨hcr, hsr⟩ := recordAll_about summary real
  refine ⟨hcd.trans hcr.symm, hsd.trans hsr.symm, ?_⟩
  rw [recordAll_files, recordAll_files, hnone]
  exact h

theorem foretells_runCategory {t : Tree} (ht : ∀ s : σ, Session.inTree s t = t) (dir : Path)
    (extension : Bytes) (s : σ) (category : String) :
    ForetellsAll (parseCategory t dir extension category).result
      (runCategory t dir extension s category).result := by
  unfold parseCategory runCategory
  cases h : categoryScripts t dir category extension with
  | error summary =>
    refine ⟨rfl, rfl, ?_⟩
    simp only [files_of_skipped h]
    exact .nil
  | ok files =>
    have hfiles := foretells_runFiles ht s (isFile_of_categoryScripts h)
    exact foretells_recordAll (.started category) rfl hfiles

theorem foretells_runEach {t : Tree} (ht : ∀ s : σ, Session.inTree s t = t) (dir : Path)
    (extension : Bytes) (s : σ) (categories : List String) :
    List.Forall₂ ForetellsAll ((categories.map (parseCategory t dir extension)).map (·.result))
      (runEach t dir extension s categories).result := by
  induction categories generalizing s with
  | nil => exact .nil
  | cons category rest ih =>
    have hfirst := foretells_runCategory ht dir extension s category
    exact .cons hfirst (ih (runCategory t dir extension s category).session)

end

theorem dryRun_foretells (around : Surroundings) (t : Tree) (c : Config) (dir : Path)
    (s : Rehearsal) (hdir : scriptsDir c = .ok dir) (hdot : ¬ ['.'] <+: c.extension.toList) :
    ∃ report, (dryRun around t c).result = .ok report ∧ report.dryRun = true ∧
      List.Forall₂ ForetellsAll report.categories (runCategories t c dir s).result := by
  have hextension : withoutLeadingDots (extensionBytes c) = extensionBytes c := by
    rw [← extensionBytes_undotted, undotted_of_plain hdot]
  have htree : ∀ s : Rehearsal, Session.inTree s t = t := fun _ => rfl
  have hall := foretells_runEach htree dir (extensionBytes c) s c.categories
  unfold dryRun runCategories
  rw [hdir, hextension]
  exact ⟨_, rfl, rfl, hall⟩

def mixedScripts : Tree where
  -- `1.s` and `3.s` below `t` hold `A;B;` and `X;`; `2.s` is no text.
  nodes := [([[0x74]], .directory),
    ([[0x74], [0x31, 0x2E, 0x73]], .file (.bytes [0x41, 0x3B, 0x42, 0x3B])),
    ([[0x74], [0x32, 0x2E, 0x73]], .file (.bytes [0xFF])),
    ([[0x74], [0x33, 0x2E, 0x73]], .file (.bytes [0x58, 0x3B]))]
  here := []

def mixedScriptsConfig : Config :=
  { Config.standard with
    scriptsDir := some ".", categories := ["t", "absent"], extension := "s" }

theorem mixedScripts_found :
    categoryScripts mixedScripts [0x2E] "t" (extensionBytes mixedScriptsConfig) =
        .ok [[0x2E, 0x2F, 0x74, 0x2F, 0x31, 0x2E, 0x73], [0x2E, 0x2F, 0x74, 0x2F, 0x32, 0x2E, 0x73],
          [0x2E, 0x2F, 0x74, 0x2F, 0x33, 0x2E, 0x73]] ∧
      categoryScripts mixedScripts [0x2E] "absent" (extensionBytes mixedScriptsConfig) =
        .error (.skipped "absent" .missingDirectory) :=
  ⟨by cbv, by cbv⟩

theorem mixedScripts_parsed :
    (parseReport mixedScripts [0x2E, 0x2F, 0x74, 0x2F, 0x31, 0x2E, 0x73]).result.outcome =
        .allCommitted 2 ∧
      (parseReport mixedScripts [0x2E, 0x2F, 0x74, 0x2F, 0x32, 0x2E, 0x73]).result.outcome =
        .parseFailed (ReplayError.file .notUtf8).message ∧
      (parseReport mixedScripts [0x2E, 0x2F, 0x74, 0x2F, 0x33, 0x2E, 0x73]).result.outcome =
        .allCommitted 1 := by
  have second : mixedScripts.readText [0x2E, 0x2F, 0x74, 0x2F, 0x32, 0x2E, 0x73] =
      .error .notUtf8 := by cbv
  exact ⟨by cbv, parseReport_unreadable second, by cbv⟩

theorem dryRun_foretells_mixedScripts :
    let around : Surroundings := ⟨none, 0, 0⟩
    let s := Rehearsal.fresh ⟨[['X']], [], [1], [1]⟩
    scriptsDir mixedScriptsConfig = .ok [0x2E] ∧
      ¬ ['.'] <+: mixedScriptsConfig.extension.toList ∧
      ∃ report, (dryRun around mixedScripts mixedScriptsConfig).result = .ok report ∧
        report.categories.flatMap (fun k => k.files.map (·.outcome)) =
          [.allCommitted 2, .parseFailed (ReplayError.file .notUtf8).message, .allCommitted 1] ∧
        List.Forall₂ ForetellsAll report.categories
          (runCategories mixedScripts mixedScriptsConfig [0x2E] s).result := by
  intro around s
  have hdir : scriptsDir mixedScriptsConfig = .ok [0x2E] := by cbv
  have hdot : ¬ ['.'] <+: mixedScriptsConfig.extension.toList := by decide
  obtain ⟨report, hrun, -, hall⟩ :=
    dryRun_foretells around mixedScripts mixedScriptsConfig [0x2E] s hdir hdot
  have hreport : report.categories =
      [(parseCategory mixedScripts [0x2E] (extensionBytes mixedScriptsConfig) "t").result,
        (parseCategory mixedScripts [0x2E] (extensionBytes mixedScriptsConfig) "absent").result] := by
    unfold dryRun at hrun
    rw [hdir] at hrun
    cases hrun
    rfl
  refine ⟨hdir, hdot, report, hrun, ?_, hall⟩
  obtain ⟨hscripts, habsent⟩ := mixedScripts_found
  obtain ⟨first, second, third⟩ := mixedScripts_parsed
  simp only [hreport, parseCategory, hscripts, habsent, List.flatMap_cons, recordAll_files,
    List.map_cons, List.map_append, first, second, third]
  rfl

end Replay

end ScriptReplay

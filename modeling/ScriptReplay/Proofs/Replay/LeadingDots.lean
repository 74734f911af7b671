import ScriptReplay.Proofs.Listing.Extension
import ScriptReplay.Proofs.Replay.FileRuns
import ScriptReplay.Session.Rehearsal

namespace ScriptReplay

def Config.undotted (c : Config) : Config :=
  { c with extension := String.ofList (c.extension.toList.dropWhile (· == '.')) }

namespace Listing

theorem eq_dot_of_lowerByte {b : UInt8} (h : lowerByte b = 0x2E) : b = 0x2E := by
  unfold lowerByte at h
  split at h
  · rename_i hb
    have hl := UInt8.le_iff_toNat_le.mp hb.1
    have hu := UInt8.le_iff_toNat_le.mp hb.2
    have hn := congrArg UInt8.toNat h
    rw [UInt8.toNat_add] at hn
    simp only [UInt8.reduceToNat] at hl hu hn
    omega
  · exact h

theorem hasExtension_dotted (extension : Bytes) (name : FileName) :
    hasExtension (0x2E :: extension) name = false := by
  unfold hasExtension
  split
  · rfl
  · rename_i ending hname
    obtain ⟨-, hfree, -⟩ := Path.extension?_eq_some_iff.mp hname
    cases ending with
    | nil => rfl
    | cons b ending =>
      have hb : lowerByte b ≠ 0x2E := fun h => hfree (eq_dot_of_lowerByte h ▸ List.mem_cons_self)
      have hdot : lowerByte 0x2E = 0x2E := by decide
      simp [hb, hdot]

theorem scripts?_dotted (t : Tree) (dir : Path) (extension : Bytes) :
    scripts? t dir (0x2E :: extension) = if t.isDirectory dir then some [] else none := by
  simp [scripts?, select, hasExtension_dotted]

end Listing

namespace Replay

open Listing

theorem withoutLeadingDots_ofString (extension : String) :
    withoutLeadingDots (Path.ofString extension) =
      Path.ofString (String.ofList (extension.toList.dropWhile (· == '.'))) := by
  simp [withoutLeadingDots, Path.ofString, Path.ofText, Utf8.dropWhile_encode]

theorem extensionBytes_undotted (c : Config) :
    extensionBytes c.undotted = withoutLeadingDots (extensionBytes c) :=
  (withoutLeadingDots_ofString c.extension).symm

theorem withoutLeadingDots_twice (extension : Bytes) :
    withoutLeadingDots (withoutLeadingDots extension) = withoutLeadingDots extension :=
  List.dropWhile_idempotent _ _

theorem exists_dotted {c : Config} (h : ['.'] <+: c.extension.toList) :
    ∃ rest, extensionBytes c = 0x2E :: rest := by
  obtain ⟨rest, hrest⟩ := h
  refine ⟨Utf8.encode rest, ?_⟩
  rw [extensionBytes, Path.ofString, Path.ofText, ← hrest]
  rfl

theorem undotted_of_plain {c : Config} (h : ¬ ['.'] <+: c.extension.toList) : c.undotted = c := by
  have hkept : c.extension.toList.dropWhile (· == '.') = c.extension.toList := by
    cases hl : c.extension.toList with
    | nil => rfl
    | cons b rest =>
      have hb : b ≠ '.' := by
        rintro rfl
        exact h (hl ▸ List.prefix_append ['.'] rest)
      exact List.dropWhile_cons_of_neg (by simp [hb])
  rw [Config.undotted, hkept, String.ofList_toList]

section

variable {t : Tree} {dir : Path} {category : String} {extension rest : Bytes}

theorem categoryScripts_dotted_of_ok {files : List Path}
    (h : categoryScripts t dir category extension = .ok files) :
    categoryScripts t dir category (0x2E :: rest) = .error (.skipped category .noScripts) := by
  obtain ⟨hlisted, hscripts, -⟩ := categoryScripts_eq_ok_iff.mp h
  refine categoryScripts_eq_error_iff.mpr (.inr ⟨hlisted, .inr ⟨?_, rfl⟩⟩)
  rw [scripts?_dotted, if_pos (isDirectory_of_scripts hscripts)]

theorem categoryScripts_dotted_of_error {summary : Summary}
    (h : categoryScripts t dir category extension = .error summary) :
    categoryScripts t dir category (0x2E :: rest) = .error summary := by
  rw [categoryScripts_eq_error_iff] at h ⊢
  refine h.imp_right fun ⟨hlisted, hwhy⟩ => ⟨hlisted, hwhy.imp ?_ ?_⟩
  · rintro ⟨hscripts, rfl⟩
    exact ⟨by rw [scripts?_dotted, if_neg (not_isDirectory_of_scripts hscripts)], rfl⟩
  · rintro ⟨hscripts, rfl⟩
    exact ⟨by rw [scripts?_dotted, if_pos (isDirectory_of_scripts hscripts)], rfl⟩

theorem parseCategory_dotted_iff :
    (parseCategory t dir (0x2E :: rest) category).result =
        (parseCategory t dir extension category).result ↔
      ∀ files, categoryScripts t dir category extension ≠ .ok files := by
  unfold parseCategory
  cases h : categoryScripts t dir category extension with
  | error summary => simp [categoryScripts_dotted_of_error h]
  | ok files =>
    simp only [categoryScripts_dotted_of_ok h, ne_eq, Except.ok.injEq, forall_eq', iff_false]
    intro hsame
    have hstatus := congrArg Summary.status hsame
    rw [(recordAll_about _ _).2] at hstatus
    cases hstatus

end

theorem parseCategories_undotted_iff (t : Tree) (c : Config) (dir : Path) :
    (parseCategories t c dir).result = (parseCategories t c.undotted dir).result ↔
      (['.'] <+: c.extension.toList → ∀ category ∈ c.categories, ∀ files,
        categoryScripts t dir category (extensionBytes c.undotted) ≠ .ok files) := by
  by_cases hdot : ['.'] <+: c.extension.toList
  · obtain ⟨rest, hrest⟩ := exists_dotted hdot
    have hcategories : c.undotted.categories = c.categories := rfl
    simp only [parseCategories, hcategories, hrest, List.map_map, List.map_inj_left,
      Function.comp_apply, parseCategory_dotted_iff]
    exact ⟨fun h _ => h, fun h => h hdot⟩
  · rw [undotted_of_plain hdot]
    exact ⟨fun _ h => absurd h hdot, fun _ => rfl⟩

/-- Without its leading dots an extension gives the same run. It gives the same dry run only if it
has no leading dots, or if there is nothing that a run would execute. -/
theorem leadingDots_immaterial_iff {σ : Type} [Session σ] (around : Surroundings) (t : Tree)
    (c : Config) :
    (∀ (dir : Path) (s : σ), runCategories t c dir s = runCategories t c.undotted dir s) ∧
      ((dryRun around t c).result.map (·.categories) =
          (dryRun around t c.undotted).result.map (·.categories) ↔
        ∀ dir, scriptsDir c = .ok dir → ['.'] <+: c.extension.toList →
          ∀ category ∈ c.categories, ∀ files,
            categoryScripts t dir category (extensionBytes c.undotted) ≠ .ok files) := by
  constructor
  · intro dir s
    rw [runCategories, runCategories, extensionBytes_undotted, withoutLeadingDots_twice]
    rfl
  · have hsame : scriptsDir c.undotted = scriptsDir c := rfl
    unfold dryRun
    rw [hsame]
    cases hdir : scriptsDir c with
    | error e => simp [Except.map]
    | ok dir => simpa [Except.map] using parseCategories_undotted_iff t c dir

def singleScript : Tree where
  -- `s/t/1.sql` holds `A;`.
  nodes := [([[0x73]], .directory), ([[0x73], [0x74]], .directory),
    ([[0x73], [0x74], [0x31, 0x2E, 0x73, 0x71, 0x6C]], .file (.bytes [0x41, 0x3B]))]
  here := []

def dottedConfig : Config :=
  { Config.standard with scriptsDir := some "s", categories := ["t"], extension := ".sql" }

theorem dryRun_of_dottedConfig :
    let around : Surroundings := ⟨none, 0, 0⟩
    let statuses := fun summaries : List Summary => summaries.map (·.status)
    let s := Rehearsal.fresh ⟨[], [], [], []⟩
    (dryRun around singleScript dottedConfig).result.map (statuses ·.categories) =
        .ok [.noScripts] ∧
      (dryRun around singleScript dottedConfig.undotted).result.map (statuses ·.categories) =
        .ok [.executed] ∧
      statuses (runCategories singleScript dottedConfig (Path.ofString "s") s).result =
        [.executed] :=
  ⟨by cbv, by cbv, by cbv⟩

end Replay

end ScriptReplay

import Mathlib
import ScriptReplay.Proofs.Replay.FileRuns

namespace ScriptReplay

def FileReport.isCommitted (r : FileReport) : Bool :=
  r.outcome matches .allCommitted _

theorem FileReport.isSuccess_eq (r : FileReport) : r.outcome.isSuccess = r.isCommitted := by
  unfold FileReport.isCommitted
  cases r.outcome <;> rfl

namespace Summary

def Blames (failure : String × String) (r : FileReport) : Prop :=
  failure.1 = r.file ∧ (r.outcome = .rolledBack failure.2 ∨ r.outcome = .parseFailed failure.2)

structure Counted (s : Summary) : Prop where
  succeeded_eq : s.succeeded = s.files.countP (·.isCommitted)
  failed_eq : s.failed = s.files.countP (!·.isCommitted)

structure Truthful (s : Summary) : Prop extends s.Counted where
  failures : List.Forall₂ Blames s.failures (s.files.filter (!·.isCommitted))
  executed_iff : s.status = .executed ↔ s.files ≠ []

theorem counted_record {s : Summary} (h : s.Counted) (r : FileReport) : (s.record r).Counted := by
  obtain ⟨hs, hf⟩ := h
  unfold record
  rw [r.isSuccess_eq]
  cases hr : r.isCommitted with
  | true => constructor <;> simp [hs, hf, hr]
  | false => constructor <;> simp [hs, hf, hr]

theorem counted_recordAll {s : Summary} (h : s.Counted) (rs : List FileReport) :
    (s.recordAll rs).Counted := by
  induction rs generalizing s with
  | nil => exact h
  | cons r rs ih => exact ih (counted_record h r)

theorem counted_of_empty {s : Summary} (files : s.files = []) (succeeded : s.succeeded = 0)
    (failed : s.failed = 0) : s.Counted := by
  constructor <;> simp [files, succeeded, failed]

theorem isCommitted_of_error? {r : FileReport} (h : r.outcome.error? = none) :
    r.isCommitted = true := by
  unfold FileReport.isCommitted
  cases ho : r.outcome with
  | allCommitted n => rfl
  | rolledBack e | parseFailed e => simp [ho, Outcome.error?] at h

theorem blames_of_error? {r : FileReport} {e : String} (h : r.outcome.error? = some e) :
    r.isCommitted = false ∧ Blames (r.file, e) r := by
  unfold FileReport.isCommitted Blames
  cases ho : r.outcome with
  | allCommitted n => simp [ho, Outcome.error?] at h
  | rolledBack e' =>
    rw [ho] at h
    cases h
    exact ⟨rfl, rfl, .inl rfl⟩
  | parseFailed e' =>
    rw [ho] at h
    cases h
    exact ⟨rfl, rfl, .inr rfl⟩

theorem blames_failures (s : Summary) :
    List.Forall₂ Blames s.failures (s.files.filter (!·.isCommitted)) := by
  unfold failures
  induction s.files with
  | nil => exact .nil
  | cons r rs ih =>
    cases h : r.outcome.error? with
    | none =>
      have hr := isCommitted_of_error? h
      rw [List.filterMap_cons_none (by simp [h]), List.filter_cons_of_neg (by simp [hr])]
      exact ih
    | some e =>
      obtain ⟨hr, hblames⟩ := blames_of_error? h
      rw [List.filterMap_cons_some (b := (r.file, e)) (by simp [h]),
        List.filter_cons_of_pos (by simp [hr])]
      exact .cons hblames ih

end Summary

namespace Replay

open Summary

theorem truthful_of_skipped {t : Tree} {dir : Path} {category : String} {extension : Bytes}
    {summary : Summary} (h : categoryScripts t dir category extension = .error summary) :
    summary.category = category ∧ summary.Truthful := by
  have hnone := files_of_skipped h
  have hsaid : summary.category = category ∧ summary.status ≠ .executed ∧ summary.succeeded = 0 ∧
      summary.failed = 0 := by
    rcases categoryScripts_eq_error_iff.mp h with ⟨e, -, rfl⟩ | ⟨-, ⟨-, rfl⟩ | ⟨-, rfl⟩⟩
    all_goals exact ⟨rfl, nofun, rfl, rfl⟩
  obtain ⟨hcategory, hstatus, hsucceeded, hfailed⟩ := hsaid
  refine ⟨hcategory, counted_of_empty hnone hsucceeded hfailed, blames_failures summary, ?_⟩
  exact ⟨fun he => absurd he hstatus, fun hf => absurd hnone hf⟩

theorem truthful_recorded (category : String) {rs : List FileReport} (h : rs ≠ []) :
    ((started category).recordAll rs).category = category ∧
      ((started category).recordAll rs).Truthful := by
  obtain ⟨hcategory, hstatus⟩ := recordAll_about (started category) rs
  have hfiles : ((started category).recordAll rs).files = rs := recordAll_files _ rs
  have hcounted := counted_recordAll (counted_of_empty (s := started category) rfl rfl rfl) rs
  refine ⟨hcategory, hcounted, blames_failures _, ?_⟩
  rw [hfiles]
  exact ⟨fun _ => h, fun _ => hstatus⟩

theorem truthful_parseCategory (t : Tree) (dir : Path) (extension : Bytes) (category : String) :
    let summary := (parseCategory t dir extension category).result
    summary.category = category ∧ summary.Truthful := by
  unfold parseCategory
  cases h : categoryScripts t dir category extension with
  | error summary => exact truthful_of_skipped h
  | ok files =>
    refine truthful_recorded category fun hnil => (categoryScripts_eq_ok_iff.mp h).2.2 ?_
    simpa using hnil

theorem truthful_runCategory {σ : Type} [Session σ] (t : Tree) (dir : Path) (extension : Bytes)
    (s : σ) (category : String) :
    let summary := (runCategory t dir extension s category).result
    summary.category = category ∧ summary.Truthful := by
  unfold runCategory
  cases h : categoryScripts t dir category extension with
  | error summary => exact truthful_of_skipped h
  | ok files =>
    refine truthful_recorded category fun hnil => (categoryScripts_eq_ok_iff.mp h).2.2 ?_
    rw [(runFiles_eq_fileRuns t s files).2] at hnil
    cases files with
    | nil => rfl
    | cons p ps => cases hnil

theorem truthful_runEach {σ : Type} [Session σ] (t : Tree) (dir : Path) (extension : Bytes) (s : σ)
    (categories : List String) :
    List.Forall₂ (fun category summary => summary.category = category ∧ summary.Truthful)
      categories (runEach t dir extension s categories).result := by
  induction categories generalizing s with
  | nil => exact .nil
  | cons category rest ih =>
    have hfirst := truthful_runCategory t dir extension s category
    exact .cons hfirst (ih (runCategory t dir extension s category).session)

theorem truthful_parseCategories (t : Tree) (c : Config) (dir : Path) :
    List.Forall₂ (fun category summary => summary.category = category ∧ summary.Truthful)
      c.categories (parseCategories t c dir).result := by
  unfold parseCategories
  induction c.categories with
  | nil => exact .nil
  | cons category rest ih => exact .cons (truthful_parseCategory t dir _ category) ih

end Replay

namespace Report

def IsComplete (r : Report) : Prop :=
  ∀ s ∈ r.categories, s.status ≠ .unreadable ∧ ∀ f ∈ s.files, ∃ n, f.outcome = .allCommitted n

theorem succeeded_eq_sum (r : Report) : r.succeeded = (r.categories.map (·.succeeded)).sum := by
  rw [succeeded, List.sum_eq_foldr, List.foldr_map]

theorem failed_eq_sum (r : Report) : r.failed = (r.categories.map (·.failed)).sum := by
  rw [failed, List.sum_eq_foldr, List.foldr_map]

theorem isCommitted_iff (r : FileReport) : r.isCommitted = true ↔ ∃ n, r.outcome = .allCommitted n := by
  unfold FileReport.isCommitted
  cases r.outcome <;> simp

theorem failed_eq_zero_iff {s : Summary} (h : s.Counted) :
    s.failed = 0 ↔ ∀ f ∈ s.files, ∃ n, f.outcome = .allCommitted n := by
  simp only [h.failed_eq, List.countP_eq_zero, ← isCommitted_iff]
  simp

theorem isSuccess_iff {r : Report} (h : ∀ s ∈ r.categories, s.Truthful) :
    r.isSuccess = true ↔ r.IsComplete := by
  have hfailed : r.failed = 0 ↔ ∀ s ∈ r.categories, s.failed = 0 := by
    simp [failed_eq_sum, List.sum_eq_zero_iff_forall_eq_nat]
  unfold isSuccess IsComplete
  rw [Bool.and_eq_true, beq_iff_eq, hfailed, List.all_eq_true]
  constructor
  · rintro ⟨hnone, hlisted⟩ s hs
    exact ⟨by simpa using hlisted s hs, (failed_eq_zero_iff (h s hs).toCounted).mp (hnone s hs)⟩
  · intro hall
    refine ⟨fun s hs => (failed_eq_zero_iff (h s hs).toCounted).mpr (hall s hs).2, fun s hs => ?_⟩
    simpa using (hall s hs).1

end Report

end ScriptReplay

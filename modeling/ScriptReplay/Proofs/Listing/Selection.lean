import ScriptReplay.Replay

namespace ScriptReplay

namespace Listing

theorem byName_trans (a b c : FileName) (hab : byName a b = true) (hbc : byName b c = true) :
    byName a c = true :=
  decide_eq_true (List.le_trans (of_decide_eq_true hab) (of_decide_eq_true hbc))

theorem byName_total (a b : FileName) : (byName a b || byName b a) = true := by
  rw [Bool.or_eq_true]
  exact (List.le_total a b).imp decide_eq_true decide_eq_true

theorem sorted_mergeSort (ns : List FileName) :
    (ns.mergeSort byName).Pairwise (byName · · = true) :=
  List.pairwise_mergeSort byName_trans byName_total ns

theorem eq_mergeSort {ms ns : List FileName} (h : ms.Pairwise (byName · · = true))
    (hperm : ms.Perm ns) : ms = ns.mergeSort byName := by
  have hsame := hperm.trans (List.mergeSort_perm ns byName).symm
  refine hsame.eq_of_pairwise (fun a b _ _ hab hba => ?_) h (sorted_mergeSort ns)
  exact List.le_antisymm (of_decide_eq_true hab) (of_decide_eq_true hba)

theorem mem_select {extension : Bytes} {entries : List Entry} {n : FileName} :
    n ∈ select extension entries ↔
      ∃ e ∈ entries, e.name = n ∧ e.isFile = true ∧ hasExtension extension n = true := by
  rw [select, List.mem_mergeSort, List.mem_map]
  constructor
  · rintro ⟨e, he, rfl⟩
    obtain ⟨hmem, hboth⟩ := List.mem_filter.mp he
    obtain ⟨hfile, hext⟩ := Bool.and_eq_true_iff.mp hboth
    exact ⟨e, hmem, rfl, hfile, hext⟩
  · rintro ⟨e, hmem, rfl, hfile, hext⟩
    exact ⟨e, List.mem_filter.mpr ⟨hmem, Bool.and_eq_true_iff.mpr ⟨hfile, hext⟩⟩, rfl⟩

theorem isDirectory_of_scripts {t : Tree} {dir : Path} {extension : Bytes} {files : List Path}
    (h : scripts? t dir extension = some files) : t.isDirectory dir = true := by
  unfold scripts? at h
  split at h
  · assumption
  · cases h

theorem not_isDirectory_of_scripts {t : Tree} {dir : Path} {extension : Bytes}
    (h : scripts? t dir extension = none) : ¬ t.isDirectory dir = true := by
  intro hdir
  rw [scripts?, if_pos hdir] at h
  cases h

theorem isFile_of_scripts {t : Tree} {dir : Path} {extension : Bytes} {files : List Path}
    (h : scripts? t dir extension = some files) : ∀ p ∈ files, t.isFile p = true := by
  unfold scripts? at h
  split at h
  · cases h
    intro p hp
    obtain ⟨n, hn, rfl⟩ := List.mem_map.mp hp
    obtain ⟨e, he, rfl, hfile, -⟩ := mem_select.mp hn
    obtain ⟨m, -, rfl⟩ := List.mem_map.mp he
    exact hfile
  · cases h

end Listing

namespace Replay

section

variable {t : Tree} {dir : Path} {category : String} {extension : Bytes}

theorem categoryScripts_eq_ok_iff {files : List Path} :
    categoryScripts t dir category extension = .ok files ↔
      t.listingFault? (Path.join dir (Path.ofString category)) = none ∧
        Listing.scripts? t (Path.join dir (Path.ofString category)) extension = some files ∧
          files ≠ [] := by
  unfold categoryScripts
  dsimp only
  split
  · rename_i hfault
    simp [hfault]
  · rename_i hlisted
    split
    · rename_i hscripts
      simp [hscripts]
    · rename_i hscripts
      simp only [hscripts, reduceCtorEq, Option.some.injEq, false_iff]
      rintro ⟨-, rfl, hne⟩
      exact hne rfl
    · rename_i found hne hscripts
      simp only [hlisted, hscripts, Except.ok.injEq, Option.some.injEq, true_and]
      exact ⟨fun h => ⟨h, h ▸ hne⟩, fun h => h.1⟩

theorem categoryScripts_eq_error_iff {summary : Summary} :
    categoryScripts t dir category extension = .error summary ↔
      (∃ e, t.listingFault? (Path.join dir (Path.ofString category)) = some e ∧
        summary = .unlisted category (ReplayError.file e).message) ∨
      t.listingFault? (Path.join dir (Path.ofString category)) = none ∧
        (Listing.scripts? t (Path.join dir (Path.ofString category)) extension = none ∧
            summary = .skipped category .missingDirectory ∨
          Listing.scripts? t (Path.join dir (Path.ofString category)) extension = some [] ∧
            summary = .skipped category .noScripts) := by
  unfold categoryScripts
  dsimp only
  split
  · rename_i hfault
    simp [hfault, eq_comm]
  · rename_i hlisted
    split
    · rename_i hscripts
      simp [hlisted, hscripts, eq_comm]
    · rename_i hscripts
      simp [hlisted, hscripts, eq_comm]
    · rename_i found hne hscripts
      have hne : found ≠ [] := hne
      simp [hlisted, hscripts, hne]

theorem isFile_of_categoryScripts {files : List Path}
    (h : categoryScripts t dir category extension = .ok files) : ∀ p ∈ files, t.isFile p = true :=
  Listing.isFile_of_scripts (categoryScripts_eq_ok_iff.mp h).2.1

theorem files_of_skipped {summary : Summary}
    (h : categoryScripts t dir category extension = .error summary) : summary.files = [] := by
  rcases categoryScripts_eq_error_iff.mp h with ⟨e, -, rfl⟩ | ⟨-, ⟨-, rfl⟩ | ⟨-, rfl⟩⟩ <;> rfl

end

end Replay

end ScriptReplay

import ScriptReplay.Proofs.Listing.Extension
import ScriptReplay.Proofs.Replay.FileRuns
import ScriptReplay.Proofs.Tree.WellFormed
import ScriptReplay.Session.Rehearsal

namespace ScriptReplay

namespace Tree

theorem isFile_iff {t : Tree} {p : Path} :
    t.isFile p = true ↔ ∃ content, t.node? p = some (.file content) := by
  unfold isFile
  split
  · rename_i content hnode
    exact ⟨fun _ => ⟨content, hnode⟩, fun _ => rfl⟩
  · rename_i hother
    exact ⟨fun h => absurd h Bool.false_ne_true, fun ⟨content, h⟩ => absurd h (hother content)⟩

theorem isDirectory_iff {t : Tree} {p : Path} :
    t.isDirectory p = true ↔ ∃ l, t.resolve .target p = .ok (.taken l .directory) := by
  unfold isDirectory node?
  split
  · rename_i l node hp
    simp [hp]
  · rename_i hother
    simp only [beq_iff_eq, reduceCtorEq, false_iff]
    rintro ⟨l, hl⟩
    exact hother l .directory hl

theorem ne_nil_of_isDirectory {t : Tree} {p : Path} (h : t.isDirectory p = true) : p ≠ [] := by
  rintro rfl
  cases h

theorem listingFault?_of_elsewhere {t : Tree} {p : Path} (h : t.isDirectory p = false) :
    t.listingFault? p = none := by
  unfold listingFault?
  split
  · rename_i l hp
    rw [isDirectory_iff.mpr ⟨l, hp⟩] at h
    cases h
  · rfl

end Tree

namespace Listing

theorem select_perm {entries entries' : List Entry} (h : entries'.Perm entries)
    (extension : Bytes) : select extension entries' = select extension entries := by
  refine eq_mergeSort (sorted_mergeSort _) ((List.mergeSort_perm _ byName).trans ?_)
  exact (h.filter _).map _

theorem select_increasing {entries : List Entry} (h : (entries.map (·.name)).Nodup)
    (extension : Bytes) : (select extension entries).Pairwise (· < ·) := by
  have hkept := h.sublist ((List.filter_sublist (p := fun e : Entry =>
    e.isFile && hasExtension extension e.name)).map (·.name))
  have hnodup : (select extension entries).Pairwise (· ≠ ·) :=
    (List.mergeSort_perm _ byName).nodup_iff.mpr hkept
  refine (hnodup.and (sorted_mergeSort _)).imp fun {a b} hab => ?_
  by_contra hlt
  exact hab.1 (List.le_antisymm (of_decide_eq_true hab.2) (List.not_lt.mp hlt))

/-- The names are those of the files in the directory that have the wanted extension, links to files
included, each once and in the order of their bytes. -/
structure Lists (t : Tree) (dir : Path) (wanted : Text) (names : List FileName) : Prop where
  increasing : names.Pairwise (· < ·)
  mem_iff (n : FileName) : n ∈ names ↔
    t.Holds dir n ∧ (∃ content, t.node? (Path.join dir n) = some (.file content)) ∧
      HasEnding n wanted

theorem lists_select {t : Tree} (ht : t.WellFormed) (dir : Path) (wanted : Text) :
    Lists t dir wanted (select (Utf8.encode wanted) (entriesOf t dir)) := by
  have hnames : (entriesOf t dir).map (·.name) = t.entries dir := by
    rw [entriesOf, List.map_map]
    exact List.map_id _
  refine ⟨select_increasing (hnames ▸ ht.nodup_entries dir) _, fun n => ?_⟩
  rw [mem_select, ← Tree.mem_entries_iff, ← Tree.isFile_iff]
  constructor
  · rintro ⟨e, he, rfl, hfile, hext⟩
    obtain ⟨n, hn, rfl⟩ := List.mem_map.mp he
    exact ⟨hn, hfile, (hasExtension_iff (ht.isEntryName hn).ne_dotDot).mp hext⟩
  · rintro ⟨hn, hfile, hext⟩
    exact ⟨_, List.mem_map_of_mem hn, rfl, hfile,
      (hasExtension_iff (ht.isEntryName hn).ne_dotDot).mpr hext⟩

theorem scripts?_rearranged {t t' : Tree} (ht : t.WellFormed) (h : t.Rearranged t') (dir : Path)
    (extension : Bytes) : scripts? t' dir extension = scripts? t dir extension := by
  have hentries : (entriesOf t' dir).Perm (entriesOf t dir) := by
    have hmap := (h.entries_perm ht dir).map fun n => Entry.mk n (t'.isFile (Path.join dir n))
    simp only [h.isFile_eq ht] at hmap
    simpa only [entriesOf, h.isFile_eq ht] using hmap
  rw [scripts?, scripts?, h.isDirectory_eq ht, select_perm hentries]

end Listing

namespace Replay

open Listing

variable {σ : Type} [Session σ]

structure Skips (s : σ) (status : Status) (ran : Ran σ Summary) : Prop where
  session_eq : ran.session = s
  files_eq : ran.result.files = []
  status_eq : ran.result.status = status

def IsReportOf (σ : Type) [Session σ] (t : Tree) (dir : Path) (n : FileName) (r : FileReport) :
    Prop :=
  r.file = Path.shown n ∧ ∃ before : σ, r = (runFile t before (Path.join dir n)).result

theorem reports_runFiles {t : Tree} {dir : Path} {names : List FileName}
    (h : ∀ n ∈ names, Path.fileName? (Path.join dir n) = some n) (s : σ) :
    List.Forall₂ (IsReportOf σ t dir) names (runFiles t s (names.map (Path.join dir))).result := by
  induction names generalizing s with
  | nil => exact .nil
  | cons n names ih =>
    obtain ⟨hn, hnames⟩ := List.forall_mem_cons.mp h
    have hfile : (runFile t s (Path.join dir n)).result.file = Path.shown n := by
      rw [runFile_file, reportedName, hn]
    exact .cons ⟨hfile, s, rfl⟩ (ih hnames _)

theorem runCategory_skipped {t : Tree} {dir : Path} {extension : Bytes} {category : String}
    {summary : Summary} (h : categoryScripts t dir category extension = .error summary)
    {status : Status} (hstatus : summary.status = status) (s : σ) :
    Skips s status (runCategory t dir extension s category) := by
  unfold runCategory
  rw [h]
  exact ⟨rfl, files_of_skipped h, hstatus⟩

theorem runCategory_started {t : Tree} {dir : Path} {extension : Bytes} {category : String}
    {files : List Path} (h : categoryScripts t dir category extension = .ok files) (s : σ) :
    (runCategory t dir extension s category).result.status = .executed ∧
      (runCategory t dir extension s category).result.files = (runFiles t s files).result := by
  unfold runCategory
  rw [h]
  exact ⟨(recordAll_about _ _).2, recordAll_files _ _⟩

/-- The listing of a category does not hang on the order of the directory, and it says what a run
does: nothing where there is nothing to list, and else one run for each name, in the order of the
names. -/
theorem runCategory_listed {t t' : Tree} (ht : t.WellFormed) (h : t.Rearranged t') (dir : Path)
    (category extension : String) (s : σ) :
    let place := Path.join dir (Path.ofString category)
    let wanted := Path.ofString extension
    let ran := runCategory t dir wanted s category
    scripts? t' place wanted = scripts? t place wanted ∧
      (t.isDirectory place = false →
        scripts? t place wanted = none ∧ Skips s .missingDirectory ran) ∧
      (t.isDirectory place = true →
        ∃ names, scripts? t place wanted = some (names.map (Path.join place)) ∧
          Lists t place extension.toList names ∧
          (∀ e, t.listingFault? place = some e → Skips s .unreadable ran) ∧
          (t.listingFault? place = none →
            (names = [] → Skips s .noScripts ran) ∧
            (names ≠ [] → ran.result.status = .executed ∧
              List.Forall₂ (IsReportOf σ t place) names ran.result.files))) := by
  intro place wanted ran
  refine ⟨scripts?_rearranged ht h place wanted, fun hplace => ?_, fun hplace => ?_⟩
  · have hnone : scripts? t place wanted = none := by rw [scripts?, hplace]; rfl
    have hskip := categoryScripts_eq_error_iff.mpr
      (.inr ⟨Tree.listingFault?_of_elsewhere hplace, .inl ⟨hnone, rfl⟩⟩)
    exact ⟨hnone, runCategory_skipped hskip rfl s⟩
  · have hlists : Lists t place extension.toList (select wanted (entriesOf t place)) :=
      lists_select ht place extension.toList
    generalize hnames : select wanted (entriesOf t place) = names at hlists
    have hsome : scripts? t place wanted = some (names.map (Path.join place)) := by
      rw [scripts?, hplace, if_pos rfl, hnames]
    refine ⟨names, hsome, hlists, fun e he => ?_, fun hlisted => ⟨fun hnil => ?_, fun hne => ?_⟩⟩
    · exact runCategory_skipped (categoryScripts_eq_error_iff.mpr (.inl ⟨e, he, rfl⟩)) rfl s
    · rw [hnil, List.map_nil] at hsome
      have hskip := categoryScripts_eq_error_iff.mpr (.inr ⟨hlisted, .inr ⟨hsome, rfl⟩⟩)
      exact runCategory_skipped hskip rfl s
    · have hgo := categoryScripts_eq_ok_iff.mpr
        ⟨hlisted, hsome, fun h => hne (List.map_eq_nil_iff.mp h)⟩
      obtain ⟨hstatus, hfiles⟩ := runCategory_started hgo s
      refine ⟨hstatus, hfiles ▸ reports_runFiles (fun n hn => ?_) s⟩
      have hholds := ((hlists.mem_iff n).mp hn).1
      exact Path.fileName?_join (Tree.ne_nil_of_isDirectory hplace)
        (ht.isEntryName (Tree.mem_entries_iff.mpr hholds))

/-- Below `t`: `a.b.sql`, `b.SQL`, which is a link to a file, and entries that are no scripts, as
`.sql`, `c.sql.bak`, `a.` before a byte that is no text, and the directory `d.sql`. -/
def linkedScripts : Tree where
  nodes := [([[0x74], [0x62, 0x2E, 0x53, 0x51, 0x4C]], .link [0x2E, 0x2E, 0x2F, 0x6F]),
    ([[0x74]], .directory),
    ([[0x6F]], .file (.bytes [0x58, 0x3B])),
    ([[0x74], [0x61, 0x2E, 0x62, 0x2E, 0x73, 0x71, 0x6C]], .file (.bytes [0xFF])),
    ([[0x74], [0x2E, 0x73, 0x71, 0x6C]], .file (.bytes [])),
    ([[0x74], [0x63, 0x2E, 0x73, 0x71, 0x6C, 0x2E, 0x62, 0x61, 0x6B]], .file (.bytes [])),
    ([[0x74], [0x61, 0x2E, 0xFF]], .file (.bytes [])),
    ([[0x74], [0x64, 0x2E, 0x73, 0x71, 0x6C]], .directory)]
  here := []

theorem linkedScripts_listed :
    let place := Path.join [0x2E] (Path.ofString "t")
    linkedScripts.isDirectory place = true ∧ linkedScripts.listingFault? place = none ∧
      scripts? linkedScripts place (Path.ofString "sql") =
        some [place ++ [0x2F, 0x61, 0x2E, 0x62, 0x2E, 0x73, 0x71, 0x6C],
          place ++ [0x2F, 0x62, 0x2E, 0x53, 0x51, 0x4C]] :=
  ⟨by cbv, by cbv, by cbv⟩

theorem runCategory_listed_linkedScripts :
    let t' := { linkedScripts with nodes := linkedScripts.nodes.reverse }
    let place := Path.join [0x2E] (Path.ofString "t")
    let ran := runCategory linkedScripts [0x2E] (Path.ofString "sql")
      (Rehearsal.fresh ⟨[['X']], [], [], []⟩) "t"
    linkedScripts.WellFormed ∧ linkedScripts.Rearranged t' ∧
      scripts? t' place (Path.ofString "sql") =
        some [place ++ [0x2F, 0x61, 0x2E, 0x62, 0x2E, 0x73, 0x71, 0x6C],
          place ++ [0x2F, 0x62, 0x2E, 0x53, 0x51, 0x4C]] ∧
      ran.result.status = .executed ∧
      ran.result.files.length = 2 := by
  intro t' place ran
  have ht : linkedScripts.WellFormed := ⟨by decide, by decide⟩
  have hrearranged : linkedScripts.Rearranged t' := ⟨List.reverse_perm _, rfl, rfl⟩
  obtain ⟨hdir, hlisted, hscripts⟩ := linkedScripts_listed
  obtain ⟨hsame, -, hexact⟩ := runCategory_listed ht hrearranged [0x2E] "t" "sql"
    (Rehearsal.fresh ⟨[['X']], [], [], []⟩)
  obtain ⟨names, hnames, -, -, hran⟩ := hexact hdir
  have hmap := Option.some.inj (hnames.symm.trans hscripts)
  have hne : names ≠ [] := by
    rintro rfl
    cases hmap
  obtain ⟨hstatus, hfiles⟩ := (hran hlisted).2 hne
  refine ⟨ht, hrearranged, hsame.trans hscripts, hstatus, ?_⟩
  rw [← hfiles.length_eq, ← List.length_map (Path.join place), hmap]
  rfl

end Replay

end ScriptReplay

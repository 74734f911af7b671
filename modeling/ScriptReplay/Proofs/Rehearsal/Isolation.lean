import ScriptReplay.Proofs.Execution.Alike
import ScriptReplay.Proofs.Listing.Others
import ScriptReplay.Proofs.Rehearsal.Atomicity

/-!
Isolation of the files of a replay. On a rehearsal that refuses by its markers only, a file runs as
it would run alone: what came before is in front of what it adds and changes nothing else. So what
happens to one file makes no difference to the others.
-/

namespace ScriptReplay.Rehearsal

structure OnlyMarkers (s : Rehearsal) : Prop where
  pending_eq : s.pending = []
  begins_eq : s.refusals.begins = []
  commits_eq : s.refusals.commits = []
  rollbacks_eq : s.refusals.rollbacks = []

theorem OnlyMarkers.settled {s : Rehearsal} (h : s.OnlyMarkers) : s.Settled :=
  ⟨h.pending_eq, h.rollbacks_eq⟩

structure Behind (s u v : Rehearsal) : Prop where
  refusals_eq : u.refusals = s.refusals
  refusals_eq' : v.refusals = s.refusals
  events_eq : u.events = s.events ++ v.events
  committed_eq : u.committed = s.committed ++ v.committed
  pending_eq : u.pending = v.pending

theorem behind_fresh {s : Rehearsal} (h : s.pending = []) : Behind s s (fresh s.refusals) :=
  ⟨rfl, rfl, (List.append_nil _).symm, (List.append_nil _).symm, h⟩

theorem behind_record {s u v : Rehearsal} (h : Behind s u v) (e : Event) :
    Behind s (u.record e) (v.record e) where
  refusals_eq := h.refusals_eq
  refusals_eq' := h.refusals_eq'
  events_eq := by simp only [record, h.events_eq, List.append_assoc]
  committed_eq := h.committed_eq
  pending_eq := h.pending_eq

theorem behind_executed {s u v : Rehearsal} (h : Behind s u v) (sql : Text) :
    Behind s (u.executed [sql] [sql]) (v.executed [sql] [sql]) where
  refusals_eq := h.refusals_eq
  refusals_eq' := h.refusals_eq'
  events_eq := by simp only [executed, h.events_eq, List.append_assoc]
  committed_eq := h.committed_eq
  pending_eq := by simp only [executed, h.pending_eq]

theorem alike_behind {s : Rehearsal} (hs : s.OnlyMarkers) : Session.Alike (Behind s) where
  begin {u v} h := by
    have hu : u.callNumber .begin ∉ u.refusals.begins := by simp [h.refusals_eq, hs.begins_eq]
    have hv : v.callNumber .begin ∉ v.refusals.begins := by simp [h.refusals_eq', hs.begins_eq]
    rw [begin_granted hu, begin_granted hv]
    exact ⟨behind_record h .begin, rfl⟩
  execute {u v} sql h := by
    have hrefusals : v.refusals = u.refusals := h.refusals_eq'.trans h.refusals_eq.symm
    cases hr : u.refusals.rejects sql with
    | true =>
      rw [execute_rejected hr, execute_rejected (hrefusals ▸ hr)]
      exact ⟨behind_record h (.execute sql), rfl⟩
    | false =>
      rw [execute_accepted hr, execute_accepted (hrefusals ▸ hr)]
      exact ⟨behind_executed h sql, rfl⟩
  commit {u v} h := by
    have hu : u.callNumber .commit ∉ u.refusals.commits := by simp [h.refusals_eq, hs.commits_eq]
    have hv : v.callNumber .commit ∉ v.refusals.commits := by simp [h.refusals_eq', hs.commits_eq]
    have hrecorded := behind_record h .commit
    rw [commit_granted hu, commit_granted hv]
    refine ⟨⟨h.refusals_eq, h.refusals_eq', hrecorded.events_eq, ?_, rfl⟩, rfl⟩
    simp only [h.committed_eq, h.pending_eq, List.append_assoc]
  rollback {u v} h := by
    have hu : u.callNumber .rollback ∉ u.refusals.rollbacks := by
      simp [h.refusals_eq, hs.rollbacks_eq]
    have hv : v.callNumber .rollback ∉ v.refusals.rollbacks := by
      simp [h.refusals_eq', hs.rollbacks_eq]
    have hrecorded := behind_record h .rollback
    change Behind s u.rollback.1 v.rollback.1 ∧ u.rollback.2 = v.rollback.2
    rw [rollback_granted hu, rollback_granted hv]
    exact ⟨⟨h.refusals_eq, h.refusals_eq', hrecorded.events_eq, h.committed_eq, rfl⟩, rfl⟩
  inTree t _ := rfl

end ScriptReplay.Rehearsal

namespace ScriptReplay.Replay

open Rehearsal

/-- A file run as it is for the file alone, on a fresh session with the same refusals. -/
structure Isolated (t : Tree) (refusals : Refusals) (r : FileRun Rehearsal) : Prop where
  report_eq : r.report = (runFile t (fresh refusals) r.path).result
  events_eq : r.after.events = r.before.events ++ (runFile t (fresh refusals) r.path).session.events
  committed_eq :
    r.after.committed = r.before.committed ++ (runFile t (fresh refusals) r.path).session.committed
  pending_eq : r.after.pending = []

theorem runFile_behind (t : Tree) {s : Rehearsal} (p : Path) (hs : s.OnlyMarkers) :
    Matched (Behind s) (runFile t s p) (runFile t (fresh s.refusals) p) :=
  runFile_matched (alike_behind hs) t (behind_fresh hs.pending_eq) p

theorem runFile_isolated (t : Tree) {s : Rehearsal} (p : Path) (hs : s.OnlyMarkers) :
    Isolated t s.refusals ⟨p, s, (runFile t s p).session, (runFile t s p).result⟩ :=
  let h := runFile_behind t p hs
  ⟨h.result, h.session.events_eq, h.session.committed_eq,
    (runFile_settled t p hs.settled).1.pending_eq⟩

theorem runFile_onlyMarkers (t : Tree) {s : Rehearsal} (p : Path) (hs : s.OnlyMarkers) :
    (runFile t s p).session.OnlyMarkers ∧ (runFile t s p).session.refusals = s.refusals := by
  have hrefusals := (runFile_behind t p hs).session.refusals_eq
  have hpending := (runFile_settled t p hs.settled).1.pending_eq
  refine ⟨⟨hpending, ?_, ?_, ?_⟩, hrefusals⟩
  · rw [hrefusals, hs.begins_eq]
  · rw [hrefusals, hs.commits_eq]
  · rw [hrefusals, hs.rollbacks_eq]

theorem fileRuns_isolated (t : Tree) {s : Rehearsal} (ps : List Path) (hs : s.OnlyMarkers) :
    ∀ r ∈ fileRuns t s ps, Isolated t s.refusals r := by
  induction ps generalizing s with
  | nil => simp [fileRuns]
  | cons p ps ih =>
    intro r hr
    rcases List.mem_cons.mp hr with rfl | hr
    · exact runFile_isolated t p hs
    · obtain ⟨hafter, hrefusals⟩ := runFile_onlyMarkers t p hs
      exact hrefusals ▸ ih hafter r hr

structure Effect where
  path : Path
  report : FileReport
  events : List Event
  committed : List Text

def effect (r : FileRun Rehearsal) : Effect where
  path := r.path
  report := r.report
  events := r.after.events.drop r.before.events.length
  committed := r.after.committed.drop r.before.committed.length

def effectAlone (t : Tree) (refusals : Refusals) (p : Path) : Effect where
  path := p
  report := (runFile t (fresh refusals) p).result
  events := (runFile t (fresh refusals) p).session.events
  committed := (runFile t (fresh refusals) p).session.committed

theorem effect_of_isolated {t : Tree} {refusals : Refusals} {r : FileRun Rehearsal}
    (h : Isolated t refusals r) : effect r = effectAlone t refusals r.path := by
  rw [effect, effectAlone, h.report_eq, h.events_eq, h.committed_eq, List.drop_left,
    List.drop_left]

theorem paths_fileRuns {σ : Type} [Session σ] (t : Tree) (s : σ) (ps : List Path) :
    (fileRuns t s ps).map (·.path) = ps := by
  induction ps generalizing s with
  | nil => rfl
  | cons p ps ih => exact congrArg (p :: ·) (ih (runFile t s p).session)

theorem effects_eq (t : Tree) {s : Rehearsal} (ps : List Path) (hs : s.OnlyMarkers)
    (q : Path → Bool) :
    ((fileRuns t s ps).filter fun r => q r.path).map effect =
      (ps.filter q).map (effectAlone t s.refusals) := by
  have hall : ∀ r ∈ (fileRuns t s ps).filter fun r => q r.path,
      effect r = effectAlone t s.refusals r.path := fun r hr =>
    effect_of_isolated (fileRuns_isolated t ps hs r (List.mem_of_mem_filter hr))
  rw [List.map_congr_left hall]
  nth_rewrite 2 [← paths_fileRuns t s ps]
  rw [List.filter_map, List.map_map]
  rfl

theorem scriptsInOrder_eq (t : Tree) (dir : Path) (extension : Bytes) (categories : List String) :
    scriptsInOrder t dir extension categories = categories.flatMap fun category =>
      if (t.listingFault? (Path.join dir (Path.ofString category))).isSome then []
      else (Listing.scripts? t (Path.join dir (Path.ofString category)) extension).getD [] := by
  unfold scriptsInOrder
  refine congrArg (List.flatMap · categories) (funext fun category => ?_)
  unfold categoryScripts
  dsimp only
  cases t.listingFault? (Path.join dir (Path.ofString category)) with
  | some e => rfl
  | none =>
    cases Listing.scripts? t (Path.join dir (Path.ofString category)) extension with
    | none => rfl
    | some files => cases files <;> rfl

theorem scriptsInOrder_others {l : Location} {t t' : Tree} (h : Tree.AlikeBut l t t') (dir : Path)
    (extension : Bytes) (categories : List String) :
    (scriptsInOrder t' dir extension categories).filter (t.isOtherFile l) =
      (scriptsInOrder t dir extension categories).filter (t.isOtherFile l) := by
  simp only [scriptsInOrder_eq, List.filter_flatMap, h.listingFault?_eq]
  refine congrArg (List.flatMap · categories) (funext fun category => ?_)
  split
  · rfl
  · exact Listing.scripts_others h _ _

theorem effectAlone_of_alike {l : Location} {t t' : Tree} (h : Tree.AlikeBut l t t')
    (refusals : Refusals) {p : Path} (hp : t.isOtherFile l p = true) :
    effectAlone t' refusals p = effectAlone t refusals p := by
  have hrun : runFile t' (fresh refusals) p = runFile t (fresh refusals) p := by
    unfold runFile
    rw [show (Session.inTree (fresh refusals) t').readText p =
      (Session.inTree (fresh refusals) t).readText p from h.readText_eq hp]
  rw [effectAlone, hrun, effectAlone]

theorem effects_others {l : Location} {t t' : Tree} (h : Tree.AlikeBut l t t') (dir : Path)
    (extension : Bytes) (categories : List String) {s : Rehearsal} (hs : s.OnlyMarkers) :
    ((fileRuns t' s (scriptsInOrder t' dir extension categories)).filter
        fun r => t'.isOtherFile l r.path).map effect =
      ((fileRuns t s (scriptsInOrder t dir extension categories)).filter
        fun r => t.isOtherFile l r.path).map effect := by
  have hother : t'.isOtherFile l = t.isOtherFile l := funext h.isOtherFile_eq
  rw [effects_eq t' _ hs, effects_eq t _ hs, hother, scriptsInOrder_others h]
  refine List.map_congr_left fun p hp => effectAlone_of_alike h s.refusals ?_
  exact (List.mem_filter.mp hp).2

theorem runCategories_isolated (t : Tree) (c : Config) (dir : Path) (s : Rehearsal)
    (hs : s.OnlyMarkers) :
    let ran := runCategories t c dir s
    let extension := withoutLeadingDots (extensionBytes c)
    let runs (u : Tree) := fileRuns u s (scriptsInOrder u dir extension c.categories)
    ran.session = sessionAfter s (runs t) ∧
      ran.result.flatMap (·.files) = (runs t).map (·.report) ∧
      (∀ r ∈ runs t,
        let alone := runFile t (fresh s.refusals) r.path
        r.report = alone.result ∧
          r.after.events = r.before.events ++ alone.session.events ∧
          r.after.committed = r.before.committed ++ alone.session.committed ∧
          r.after.pending = []) ∧
      ∀ l t', Tree.AlikeBut l t t' →
        ((runs t').filter fun r => t'.isOtherFile l r.path).map effect =
          ((runs t).filter fun r => t.isOtherFile l r.path).map effect := by
  intro ran extension runs
  obtain ⟨hsession, hreports⟩ := runEach_eq_fileRuns t dir extension s c.categories
  refine ⟨hsession, hreports, ?_, ?_⟩
  · intro r hr alone
    have h := fileRuns_isolated t (scriptsInOrder t dir extension c.categories) hs r hr
    exact ⟨h.report_eq, h.events_eq, h.committed_eq, h.pending_eq⟩
  · intro l t' h
    exact effects_others h dir extension c.categories hs

def brokenScripts : Tree :=
  threeScripts.put [[0x74], [0x32, 0x2E, 0x73]] (.file (.bytes [0xFF]))

def usedRehearsal : Rehearsal where
  refusals := ⟨[['X']], [], [], []⟩
  events := [.begin, .execute ['Z'], .commit]
  committed := [['Z']]
  pending := []

theorem effects_threeScripts :
    ([[0x2E, 0x2F, 0x74, 0x2F, 0x31, 0x2E, 0x73], [0x2E, 0x2F, 0x74, 0x2F, 0x32, 0x2E, 0x73],
        [0x2E, 0x2F, 0x74, 0x2F, 0x33, 0x2E, 0x73]].filter
          (threeScripts.isOtherFile [[0x74], [0x32, 0x2E, 0x73]])).map
        (effectAlone threeScripts usedRehearsal.refusals) =
      [⟨[0x2E, 0x2F, 0x74, 0x2F, 0x31, 0x2E, 0x73], ⟨"1.s", .allCommitted 1, 0⟩,
          [.begin, .execute ['A'], .commit], [['A']]⟩,
        ⟨[0x2E, 0x2F, 0x74, 0x2F, 0x33, 0x2E, 0x73], ⟨"3.s", .allCommitted 1, 0⟩,
          [.begin, .execute ['C'], .commit], [['C']]⟩] := by
  cbv

theorem runCategories_isolated_brokenScripts :
    let l : Location := [[0x74], [0x32, 0x2E, 0x73]]
    let files : List Path := [[0x2E, 0x2F, 0x74, 0x2F, 0x31, 0x2E, 0x73],
      [0x2E, 0x2F, 0x74, 0x2F, 0x32, 0x2E, 0x73], [0x2E, 0x2F, 0x74, 0x2F, 0x33, 0x2E, 0x73]]
    let runs (u : Tree) := fileRuns u usedRehearsal files
    usedRehearsal.OnlyMarkers ∧ Tree.AlikeBut l threeScripts brokenScripts ∧
      ((runs brokenScripts).filter fun r => brokenScripts.isOtherFile l r.path).map effect =
        [⟨[0x2E, 0x2F, 0x74, 0x2F, 0x31, 0x2E, 0x73], ⟨"1.s", .allCommitted 1, 0⟩,
            [.begin, .execute ['A'], .commit], [['A']]⟩,
          ⟨[0x2E, 0x2F, 0x74, 0x2F, 0x33, 0x2E, 0x73], ⟨"3.s", .allCommitted 1, 0⟩,
            [.begin, .execute ['C'], .commit], [['C']]⟩] := by
  intro l files runs
  have hs : usedRehearsal.OnlyMarkers := ⟨rfl, rfl, rfl, rfl⟩
  have hplain : threeScripts.Plain l := by
    intro node hnode
    exact ⟨_, (Option.some.inj hnode).symm⟩
  have hl : l = [[0x74]] ++ [[0x32, 0x2E, 0x73]] := rfl
  have hname : Path.IsName [0x32, 0x2E, 0x73] := ⟨by decide, by decide, by decide⟩
  have halike : Tree.AlikeBut l threeScripts brokenScripts :=
    Tree.alikeBut_put (.bytes [0xFF]) hplain hl hname (by decide)
  obtain ⟨-, -, -, hothers⟩ :=
    runCategories_isolated threeScripts threeScriptsConfig [0x2E] usedRehearsal hs
  have hfiles : scriptsInOrder threeScripts [0x2E]
      (withoutLeadingDots (extensionBytes threeScriptsConfig)) threeScriptsConfig.categories =
        files := by cbv
  have hfiles' : scriptsInOrder brokenScripts [0x2E]
      (withoutLeadingDots (extensionBytes threeScriptsConfig)) threeScriptsConfig.categories =
        files := by cbv
  have h := hothers l brokenScripts halike
  simp only [hfiles, hfiles'] at h
  refine ⟨hs, halike, h.trans ?_⟩
  exact (effects_eq threeScripts files hs (threeScripts.isOtherFile l)).trans effects_threeScripts

end ScriptReplay.Replay

import ScriptReplay.Command.Performance
import ScriptReplay.Proofs.Report.Tally
import ScriptReplay.Session.Rehearsal

namespace ScriptReplay

inductive ReplayError.IsEarly : ReplayError → Prop
  | config (message : String) : IsEarly (.config message)
  | malformedConfig (path : String) : IsEarly (.malformedConfig path)
  | connect (target : String) (cause : SessionError) : IsEarly (.connect target cause)

/-- The summaries tell the truth about the files of the categories, and the totals about the
summaries. -/
structure Report.Truthful (r : Report) (categories : List String) : Prop where
  categories_eq : r.categories.map (·.category) = categories
  summaries : ∀ s ∈ r.categories, s.Truthful
  succeeded_eq : r.succeeded = (r.categories.map (·.succeeded)).sum
  failed_eq : r.failed = (r.categories.map (·.failed)).sum

theorem Report.truthful_of_summaries {r : Report} {categories : List String}
    (h : List.Forall₂ (fun category s => s.category = category ∧ s.Truthful) categories
      r.categories) : r.Truthful categories := by
  refine ⟨?_, ?_, r.succeeded_eq_sum, r.failed_eq_sum⟩
  · generalize r.categories = summaries at h ⊢
    induction h with
    | nil => rfl
    | cons hs _ ih => exact congrArg₂ List.cons hs.1 ih
  · generalize r.categories = summaries at h ⊢
    induction h with
    | nil => simp
    | cons hs _ ih => exact List.forall_mem_cons.mpr ⟨hs.2, ih⟩

namespace Replay

def noScriptsDir : ReplayError :=
  .config "no scripts directory given (--scripts-dir)"

theorem dryRun_of_none {c : Config} (h : c.scriptsDir = none) (around : Surroundings) (t : Tree) :
    (dryRun around t c).result = .error noScriptsDir := by
  simp only [dryRun, scriptsDir, h, noScriptsDir]

theorem dryRun_of_some {c : Config} {dir : String} (h : c.scriptsDir = some dir)
    (around : Surroundings) (t : Tree) :
    ∃ report, (dryRun around t c).result = .ok report ∧ report.dryRun = true ∧
      report.Truthful c.categories := by
  simp only [dryRun, scriptsDir, h]
  exact ⟨_, rfl, rfl, Report.truthful_of_summaries (truthful_parseCategories t c _)⟩

variable {σ : Type} [Session σ] {connect : Opener σ} {around : Surroundings} {t : Tree} {c : Config}

theorem runWith_of_none (h : c.scriptsDir = none) :
    (runWith connect around t c).result = .error noScriptsDir := by
  simp only [runWith, scriptsDir, h, noScriptsDir]

theorem runWith_of_refused {dir : String} {e : SessionError} (h : c.scriptsDir = some dir)
    (refused : connect t (c.withPassword around.password).connection = .error e) :
    (runWith connect around t c).result =
      .error (.connect (c.withPassword around.password).connection.describe e) := by
  simp only [runWith, scriptsDir, h, refused]

theorem categories_withPassword (c : Config) (password : Option String) :
    (c.withPassword password).categories = c.categories := by
  unfold Config.withPassword
  split <;> rfl

theorem runWith_of_connected {dir : String} {opened : Tree × Ran σ Unit}
    (h : c.scriptsDir = some dir)
    (connected : connect t (c.withPassword around.password).connection = .ok opened) :
    ∃ finished, (runWith connect around t c).result = .ok finished ∧
      finished.report.dryRun = false ∧ finished.report.Truthful c.categories := by
  simp only [runWith, scriptsDir, h, connected, runCategories]
  refine ⟨_, rfl, rfl, ?_⟩
  rw [← categories_withPassword c around.password]
  exact Report.truthful_of_summaries (truthful_runEach _ _ _ _ _)

end Replay

namespace CommandLine

theorem isEarly_of_load {t : Tree} {path : String} {e : ReplayError}
    (h : (Config.load t path).result = .error e) : e.IsEarly := by
  unfold Config.load at h
  split at h
  · cases h
    exact .config _
  · split at h <;> cases h
    exact .malformedConfig path

theorem isEarly_of_loadConfig {env : Environment} {t : Tree} {asked : Option String}
    {e : ReplayError} (h : (loadConfig env t asked).result = .error e) : e.IsEarly := by
  unfold loadConfig at h
  split at h
  · exact isEarly_of_load h
  · cases h
  · cases h

variable {σ : Type} [Session σ] (connect : Replay.Opener σ)

/-- The run command, with the configuration `c` that it arrives at, comes to a report. -/
def ComesTo (env : Environment) (t : Tree) (asked : Option String) (overrides : Overrides)
    (dryRun : Bool) (c : Config) (report : Report) : Prop :=
  ∃ after, (loadConfig env t asked).result.map overrides.apply = .ok c ∧
    (replay connect env t c dryRun).result = .ok (report, after)

/-- What keeps the run command from a report: there is no configuration, or no directory of scripts
in it, or a run that is no dry run gets no session. -/
inductive Prevented (env : Environment) (t : Tree) (asked : Option String) (overrides : Overrides)
    (dryRun : Bool) : ReplayError → Prop
  | unloaded (e : ReplayError) (h : (loadConfig env t asked).result = .error e) :
    Prevented env t asked overrides dryRun e
  | nowhere (c : Config) (loaded : (loadConfig env t asked).result.map overrides.apply = .ok c)
    (h : c.scriptsDir = none) : Prevented env t asked overrides dryRun Replay.noScriptsDir
  | refused (c : Config) (loaded : (loadConfig env t asked).result.map overrides.apply = .ok c)
    (dir : String) (somewhere : c.scriptsDir = some dir) (inEarnest : dryRun = false)
    (e : SessionError)
    (h : connect t (c.withPassword env.around.password).connection = .error e) :
    Prevented env t asked overrides dryRun
      (.connect (c.withPassword env.around.password).connection.describe e)

variable {connect} {env : Environment} {t : Tree} {asked : Option String} {overrides : Overrides}
  {dryRun : Bool}

theorem replay_of_none {c : Config} (h : c.scriptsDir = none) :
    (replay connect env t c dryRun).result = .error Replay.noScriptsDir := by
  unfold replay
  cases dryRun with
  | true => simp [Replay.dryRun_of_none h, Except.map]
  | false => simp [Replay.runWith_of_none h, Except.map]

variable (connect env t dryRun) in
theorem replay_of_some {c : Config} {dir : String} (h : c.scriptsDir = some dir) :
    (dryRun = false ∧
        ∃ e, connect t (c.withPassword env.around.password).connection = .error e) ∨
      ∃ report after, (replay connect env t c dryRun).result = .ok (report, after) ∧
        report.dryRun = dryRun ∧ report.Truthful c.categories := by
  unfold replay
  cases dryRun with
  | true =>
    obtain ⟨report, hreport, hdry, htrue⟩ := Replay.dryRun_of_some h env.around t
    exact .inr ⟨report, t, by simp [hreport, Except.map], hdry, htrue⟩
  | false =>
    cases hconnect : connect t (c.withPassword env.around.password).connection with
    | error e => exact .inl ⟨rfl, e, rfl⟩
    | ok opened =>
      obtain ⟨finished, hfinished, hdry, htrue⟩ := Replay.runWith_of_connected h hconnect
      exact .inr ⟨finished.report, finished.tree, by simp [hfinished, Except.map], hdry, htrue⟩

theorem ComesTo.unique {c c' : Config} {report report' : Report}
    (h : ComesTo connect env t asked overrides dryRun c report)
    (h' : ComesTo connect env t asked overrides dryRun c' report') : report' = report := by
  obtain ⟨after, hc, hr⟩ := h
  obtain ⟨after', hc', hr'⟩ := h'
  rw [hc] at hc'
  cases hc'
  rw [hr] at hr'
  cases hr'
  rfl

variable (connect env t asked overrides dryRun) in
theorem comesTo_or_prevented :
    (∃ c report, ComesTo connect env t asked overrides dryRun c report) ∨
      ∃ e, Prevented connect env t asked overrides dryRun e := by
  cases hload : (loadConfig env t asked).result with
  | error e => exact .inr ⟨e, .unloaded e hload⟩
  | ok loaded =>
    have hc : (loadConfig env t asked).result.map overrides.apply = .ok (overrides.apply loaded) := by
      rw [hload]
      rfl
    cases hdir : (overrides.apply loaded).scriptsDir with
    | none => exact .inr ⟨_, .nowhere _ hc hdir⟩
    | some dir =>
      rcases replay_of_some connect env t dryRun hdir with ⟨hdry, e, he⟩ | ⟨report, after, hr, -, -⟩
      · exact .inr ⟨_, .refused _ hc dir hdir hdry e he⟩
      · exact .inl ⟨_, report, after, hc, hr⟩

theorem truthful_of_comesTo {c : Config} {report : Report}
    (h : ComesTo connect env t asked overrides dryRun c report) :
    report.dryRun = dryRun ∧ report.Truthful c.categories := by
  obtain ⟨after, -, hr⟩ := h
  cases hdir : c.scriptsDir with
  | none =>
    rw [replay_of_none hdir] at hr
    cases hr
  | some dir =>
    rcases replay_of_some connect env t dryRun hdir with ⟨rfl, e, he⟩ | ⟨report', after', hr', hdry, htrue⟩
    · simp [replay, Replay.runWith_of_refused hdir he, Except.map] at hr
    · rw [hr] at hr'
      cases hr'
      exact ⟨hdry, htrue⟩

section

variable (logFormat verbosity : String) (asJson : Bool)

theorem performWith_of_comesTo {c : Config} {report : Report}
    (h : ComesTo connect env t asked overrides dryRun c report) :
    let p := performWith connect env t ⟨asked, logFormat, verbosity, .run overrides dryRun asJson⟩
    p.output = reportText asJson report ∧ p.result = .ok report.isSuccess := by
  obtain ⟨after, hc, hr⟩ := h
  cases hload : (loadConfig env t asked).result with
  | error e =>
    rw [hload] at hc
    cases hc
  | ok loaded =>
    rw [hload] at hc
    cases hc
    simp only [performWith, hload, performRun, hr]
    exact ⟨trivial, trivial⟩

theorem performWith_of_replay {c : Config} {e : ReplayError}
    (hc : (loadConfig env t asked).result.map overrides.apply = .ok c)
    (h : (replay connect env t c dryRun).result = .error e) :
    (performWith connect env t
      ⟨asked, logFormat, verbosity, .run overrides dryRun asJson⟩).result = .error e := by
  cases hload : (loadConfig env t asked).result with
  | error e =>
    rw [hload] at hc
    cases hc
  | ok loaded =>
    rw [hload] at hc
    cases hc
    simp only [performWith, hload, performRun, h, Performance.failed]

theorem performWith_of_prevented {e : ReplayError}
    (h : Prevented connect env t asked overrides dryRun e) :
    let p := performWith connect env t ⟨asked, logFormat, verbosity, .run overrides dryRun asJson⟩
    p.result = .error e ∧ e.IsEarly := by
  cases h with
  | unloaded _ hload =>
    refine ⟨?_, isEarly_of_loadConfig hload⟩
    simp only [performWith, hload, Performance.failed]
  | nowhere c hc hdir => exact ⟨performWith_of_replay _ _ _ hc (replay_of_none hdir), .config _⟩
  | refused c hc dir hdir hdry e he =>
    subst hdry
    refine ⟨performWith_of_replay _ _ _ hc ?_, .connect _ e⟩
    simp [replay, Replay.runWith_of_refused hdir he, Except.map]

end

variable (connect) in
theorem performWith_exitStatus (env : Environment) (t : Tree) (asked : Option String)
    (logFormat verbosity : String) (overrides : Overrides) (dryRun asJson : Bool) :
    let p := performWith connect env t ⟨asked, logFormat, verbosity, .run overrides dryRun asJson⟩
    let comesTo := ComesTo connect env t asked overrides dryRun
    (∀ c report, comesTo c report → report.dryRun = dryRun ∧ report.Truthful c.categories ∧
        p.output = reportText asJson report) ∧
      (p.exitStatus = 0 ↔ ∃ c report, comesTo c report ∧ report.IsComplete) ∧
      (p.exitStatus = 1 ↔ ∃ c report, comesTo c report ∧ ¬ report.IsComplete) ∧
      (p.exitStatus = 2 ↔ ∀ c report, ¬ comesTo c report) ∧
      (p.exitStatus = 2 ↔ ∃ e, Prevented connect env t asked overrides dryRun e ∧ e.IsEarly ∧
        p.result = .error e) := by
  intro p comesTo
  have hreports : ∀ c report, comesTo c report → report.dryRun = dryRun ∧
      report.Truthful c.categories ∧ p.output = reportText asJson report := by
    intro c report h
    obtain ⟨hdry, htrue⟩ := truthful_of_comesTo h
    exact ⟨hdry, htrue, (performWith_of_comesTo logFormat verbosity asJson h).1⟩
  have hnot : ∀ c report e, comesTo c report → p.result ≠ .error e := by
    intro c report e h he
    have hok := (performWith_of_comesTo logFormat verbosity asJson h).2
    rw [he] at hok
    cases hok
  refine ⟨hreports, ?_⟩
  rcases comesTo_or_prevented connect env t asked overrides dryRun with
    ⟨c, report, h⟩ | ⟨e, hprevented⟩
  · have hstatus : p.exitStatus = if report.isSuccess then 0 else 1 := by
      unfold Performance.exitStatus
      rw [(performWith_of_comesTo logFormat verbosity asJson h).2]
      cases report.isSuccess <;> rfl
    have honly : ∀ P : Report → Prop, (∃ c report, comesTo c report ∧ P report) ↔ P report :=
      fun P => ⟨fun ⟨_, _, h', hP⟩ => h.unique h' ▸ hP, fun hP => ⟨c, report, h, hP⟩⟩
    have hcomplete := Report.isSuccess_iff (hreports c report h).2.1.summaries
    have hnoError : ¬ ∃ e, Prevented connect env t asked overrides dryRun e ∧ e.IsEarly ∧
        p.result = .error e := fun ⟨e, _, _, he⟩ => hnot c report e h he
    rw [honly, honly (¬ ·.IsComplete), ← hcomplete, hstatus]
    refine ⟨by simp, by simp, iff_of_false ?_ fun hnone => hnone c report h,
      iff_of_false ?_ hnoError⟩
    all_goals split <;> decide
  · obtain ⟨he, hearly⟩ := performWith_of_prevented logFormat verbosity asJson hprevented
    have hnone : ∀ c report, ¬ comesTo c report := fun c report h => hnot c report e h he
    have htwo : p.exitStatus = 2 := by
      unfold Performance.exitStatus
      rw [he]
    rw [htwo]
    exact ⟨by simp [hnone], by simp [hnone], iff_of_true rfl hnone,
      iff_of_true rfl ⟨e, hprevented, hearly, he⟩⟩

def closedCategory : Tree where
  nodes := [([[0x74]], .directory)]
  here := []
  unlisted := [([[0x74]], .denied)]

theorem performWith_exitStatus_closedCategory :
    let connect : Replay.Opener Rehearsal := fun t _ =>
      .ok (t, ⟨Rehearsal.fresh ⟨[], [], [], []⟩, [], ()⟩)
    let env : Environment := ⟨none, ⟨none, 0, 0⟩⟩
    let overrides : Overrides := { scriptsDir := some ".", categories := ["t"] }
    let p := performWith connect env closedCategory
      ⟨none, "text", "info", .run overrides false false⟩
    (∃ c report, ComesTo connect env closedCategory none overrides false c report ∧
      report.failed = 0 ∧ report.Truthful c.categories ∧ ¬ report.IsComplete) ∧
      p.exitStatus = 1 := by
  intro connect env overrides p
  have hall := performWith_exitStatus connect env closedCategory none "text" "info" overrides
    false false
  have hfault : closedCategory.listingFault? (Path.join (Path.ofString ".") (Path.ofString "t")) =
      some .denied := by cbv
  have hrun : ∃ finished, (Replay.runWith connect env.around closedCategory
      (overrides.apply Config.standard)).result = .ok finished ∧
      finished.report.categories = [.unlisted "t" (ReplayError.file .denied).message] := by
    refine ⟨_, rfl, ?_⟩
    change (Replay.runEach closedCategory (Path.ofString ".") _ _ ["t"]).result = _
    simp only [Replay.runEach, Replay.runCategory, Replay.categoryScripts, hfault]
  obtain ⟨finished, hfinished, hcategories⟩ := hrun
  have hcomes : ComesTo connect env closedCategory none overrides false
      (overrides.apply Config.standard) finished.report := by
    refine ⟨finished.tree, rfl, ?_⟩
    simp [replay, hfinished, Except.map]
  have hincomplete : ¬ finished.report.IsComplete := by
    intro h
    refine (h (.unlisted "t" (ReplayError.file .denied).message) ?_).1 rfl
    simp [hcategories]
  refine ⟨⟨_, _, hcomes, ?_, (hall.1 _ _ hcomes).2.1, hincomplete⟩, ?_⟩
  · rw [Report.failed, hcategories]
    rfl
  · exact hall.2.2.1.mpr ⟨_, _, hcomes, hincomplete⟩

end CommandLine

end ScriptReplay

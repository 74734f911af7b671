import ScriptReplay.Replay

namespace ScriptReplay

variable {σ τ : Type} [Session σ] [Session τ]

structure Session.Alike (R : σ → τ → Prop) : Prop where
  begin {s : σ} {u : τ} : R s u →
    R (Session.begin s).1 (Session.begin u).1 ∧ (Session.begin s).2 = (Session.begin u).2
  execute {s : σ} {u : τ} (sql : Text) : R s u →
    R (Session.execute s sql).1 (Session.execute u sql).1 ∧
      (Session.execute s sql).2 = (Session.execute u sql).2
  commit {s : σ} {u : τ} : R s u →
    R (Session.commit s).1 (Session.commit u).1 ∧ (Session.commit s).2 = (Session.commit u).2
  rollback {s : σ} {u : τ} : R s u →
    R (Session.rollback s).1 (Session.rollback u).1 ∧ (Session.rollback s).2 = (Session.rollback u).2
  inTree {s : σ} {u : τ} (t : Tree) : R s u → Session.inTree s t = Session.inTree u t

structure Matched {α : Type} (R : σ → τ → Prop) (a : Ran σ α) (b : Ran τ α) : Prop where
  session : R a.session b.session
  journal : a.journal = b.journal
  result : a.result = b.result

variable {R : σ → τ → Prop}

namespace Transaction

theorem abandon_matched (h : Session.Alike R) {s : σ} {u : τ} (hr : R s u) :
    Matched R (abandon s) (abandon u) := by
  obtain ⟨hrel, hanswer⟩ := h.rollback hr
  unfold abandon
  match hs : Session.rollback s, hu : Session.rollback u with
  | (s', .ok ()), (u', answer) =>
    rw [hs, hu] at hrel hanswer
    cases hanswer
    exact ⟨hrel, rfl, rfl⟩
  | (s', .error e), (u', answer) =>
    rw [hs, hu] at hrel hanswer
    cases hanswer
    exact ⟨hrel, rfl, rfl⟩

theorem commit_matched (h : Session.Alike R) {s : σ} {u : τ} (hr : R s u) :
    Matched R (commit s) (commit u) := by
  obtain ⟨hrel, hanswer⟩ := h.commit hr
  unfold commit
  match hs : Session.commit s, hu : Session.commit u with
  | (s', .ok ()), (u', answer) =>
    rw [hs, hu] at hrel hanswer
    cases hanswer
    exact ⟨hrel, rfl, rfl⟩
  | (s', .error e), (u', answer) =>
    rw [hs, hu] at hrel hanswer
    cases hanswer
    have hleft := abandon_matched h hrel
    exact ⟨hleft.session, hleft.journal, rfl⟩

theorem rollback_matched (h : Session.Alike R) {s : σ} {u : τ} (hr : R s u) :
    Matched R (rollback s) (rollback u) := by
  obtain ⟨hrel, hanswer⟩ := h.rollback hr
  exact ⟨hrel, rfl, hanswer⟩

end Transaction

namespace Execution

theorem executeFrom_matched (h : Session.Alike R) (index : Nat) {s : σ} {u : τ} (hr : R s u)
    (sqls : List Text) : Matched R (executeFrom index s sqls) (executeFrom index u sqls) := by
  induction sqls generalizing index s u with
  | nil => exact ⟨hr, rfl, rfl⟩
  | cons sql rest ih =>
    obtain ⟨hrel, hanswer⟩ := h.execute sql hr
    simp only [executeFrom]
    match hs : Session.execute s sql, hu : Session.execute u sql with
    | (s', .ok ()), (u', answer) =>
      rw [hs, hu] at hrel hanswer
      cases hanswer
      have hlater := ih (index + 1) hrel
      exact ⟨hlater.session, congrArg _ hlater.journal, hlater.result⟩
    | (s', .error e), (u', answer) =>
      rw [hs, hu] at hrel hanswer
      cases hanswer
      exact ⟨hrel, rfl, rfl⟩

theorem executeAll_matched (h : Session.Alike R) {s : σ} {u : τ} (hr : R s u) (sqls : List Text) :
    Matched R (executeAll s sqls) (executeAll u sqls) := by
  obtain ⟨hrel, hanswer⟩ := h.begin hr
  unfold executeAll
  match hs : Session.begin s, hu : Session.begin u with
  | (s', .error e), (u', answer) =>
    rw [hs, hu] at hrel hanswer
    cases hanswer
    exact ⟨hrel, rfl, rfl⟩
  | (s', .ok ()), (u', answer) =>
    rw [hs, hu] at hrel hanswer
    cases hanswer
    have hbody := executeFrom_matched h 1 hrel sqls
    have hresult := hbody.result
    simp only
    cases hb : (executeFrom 1 s' sqls).result with
    | error e =>
      have hb' := hresult.symm.trans hb
      have hended := Transaction.rollback_matched h hbody.session
      simp only [hb', hended.result, hbody.journal]
      exact ⟨hended.session, rfl, rfl⟩
    | ok _ =>
      have hb' := hresult.symm.trans hb
      have hended := Transaction.commit_matched h hbody.session
      simp only [hb', hended.journal, hended.result, hbody.journal]
      exact ⟨hended.session, rfl, rfl⟩

theorem executeScript_matched (h : Session.Alike R) {s : σ} {u : τ} (hr : R s u) (source : Text) :
    Matched R (executeScript s source) (executeScript u source) := by
  unfold executeScript
  by_cases hn : (Script.read source).statements = []
  · simp only [if_pos hn]
    exact ⟨hr, rfl, rfl⟩
  · have hran := executeAll_matched h hr (Script.read source).statements
    simp only [if_neg hn, hran.journal, hran.result]
    exact ⟨hran.session, rfl, rfl⟩

end Execution

theorem Replay.runFile_matched (h : Session.Alike R) (t : Tree) {s : σ} {u : τ} (hr : R s u)
    (p : Path) : Matched R (runFile t s p) (runFile t u p) := by
  unfold runFile
  rw [h.inTree t hr]
  cases (Session.inTree u t).readText p with
  | error e => exact ⟨hr, rfl, rfl⟩
  | ok source =>
    have hran := Execution.executeScript_matched h hr source
    simp only [hran.result, hran.journal]
    cases (Execution.executeScript u source).result with
    | ok statements => exact ⟨hran.session, rfl, rfl⟩
    | error e => exact ⟨hran.session, rfl, rfl⟩

end ScriptReplay

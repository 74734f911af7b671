import ScriptReplay.Execution

namespace ScriptReplay.Execution

variable {σ : Type} [Session σ]

inductive Accepts : σ → List Text → σ → Prop
  | nil (s : σ) : Accepts s [] s
  | cons {s t u : σ} {sql : Text} {rest : List Text} (first : Session.execute s sql = (t, .ok ()))
    (others : Accepts t rest u) : Accepts s (sql :: rest) u

theorem executeFrom_cases (index : Nat) (s : σ) (sqls : List Text) :
    (Accepts s sqls (executeFrom index s sqls).session ∧
        (executeFrom index s sqls).result = .ok ()) ∨
      ∃ first sql rest t e, sqls = first ++ sql :: rest ∧ Accepts s first t ∧
        Session.execute t sql = ((executeFrom index s sqls).session, .error e) ∧
        (executeFrom index s sqls).result =
          .error (.ofStatement (index + first.length) sql e) := by
  induction sqls generalizing index s with
  | nil => exact .inl ⟨.nil s, rfl⟩
  | cons sql rest ih =>
    match h : Session.execute s sql with
    | (t, .error e) =>
      right
      simp only [executeFrom, h]
      exact ⟨[], sql, rest, s, e, rfl, .nil s, h, rfl⟩
    | (t, .ok ()) =>
      simp only [executeFrom, h]
      rcases ih (index + 1) t with ⟨ha, hr⟩ | ⟨first, sql', rest', u, e, rfl, ha, he, hr⟩
      · exact .inl ⟨.cons h ha, hr⟩
      · refine .inr ⟨sql :: first, sql', rest', u, e, rfl, .cons h ha, he, hr.trans ?_⟩
        rw [List.length_cons, Nat.add_right_comm, Nat.add_assoc]

/-- What a transaction of the statements `sqls` on the session `s` can leave and answer. -/
inductive Course (s : σ) (sqls : List Text) : σ → Except ReplayError Unit → Prop
  | beginRefused {t : σ} {e : SessionError} (refused : Session.begin s = (t, .error e)) :
    Course s sqls t (.error (.transaction e))
  | statementFailed {t u v : σ} {first rest : List Text} {sql : Text} {e : SessionError}
    (begun : Session.begin s = (t, .ok ())) (split : sqls = first ++ sql :: rest)
    (accepted : Accepts t first u) (failed : Session.execute u sql = (v, .error e)) :
    Course s sqls (Session.rollback v).1 (.error (.ofStatement (first.length + 1) sql e))
  | commitRefused {t u v : σ} {e : SessionError} (begun : Session.begin s = (t, .ok ()))
    (accepted : Accepts t sqls u) (refused : Session.commit u = (v, .error e)) :
    Course s sqls (Session.rollback v).1 (.error (.transaction e))
  | committed {t u v : σ} (begun : Session.begin s = (t, .ok ())) (accepted : Accepts t sqls u)
    (done : Session.commit u = (v, .ok ())) : Course s sqls v (.ok ())

theorem session_of_abandon (s : σ) : (Transaction.abandon s).session = (Session.rollback s).1 := by
  unfold Transaction.abandon
  match h : Session.rollback s with
  | (t, .ok ()) => rfl
  | (t, .error e) => rfl

theorem executeAll_course (s : σ) (sqls : List Text) :
    Course s sqls (executeAll s sqls).session (executeAll s sqls).result := by
  match hb : Session.begin s with
  | (t, .error e) =>
    simp only [executeAll, hb]
    exact .beginRefused hb
  | (t, .ok ()) =>
    simp only [executeAll, hb]
    rcases executeFrom_cases 1 t sqls with ⟨ha, hr⟩ | ⟨first, sql, rest, u, e, hsplit, ha, he, hr⟩
    · simp only [hr, Transaction.commit]
      match hc : Session.commit (executeFrom 1 t sqls).session with
      | (v, .ok ()) => exact .committed hb ha hc
      | (v, .error e) =>
        simp only [session_of_abandon]
        exact .commitRefused hb ha hc
    · simp only [hr, Nat.add_comm 1]
      exact .statementFailed hb hsplit ha he

end ScriptReplay.Execution

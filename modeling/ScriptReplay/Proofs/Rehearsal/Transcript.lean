import ScriptReplay.Proofs.Rehearsal.Exits

namespace ScriptReplay

namespace Event

def isEnd : Event → Bool
  | commit | rollback => true
  | _ => false

def statement? : Event → Option Text
  | execute sql => some sql
  | _ => none

theorem isEnd_execute (sqls : List Text) : (sqls.map execute).filter isEnd = [] := by
  simp [isEnd]

theorem statement?_execute (sqls : List Text) : (sqls.map execute).filterMap statement? = sqls := by
  induction sqls with
  | nil => rfl
  | cons sql rest ih => exact congrArg (sql :: ·) ih

end Event

namespace Rehearsal

open Execution

inductive Transcript (s : Rehearsal) (sqls : List Text) :
    List Event → Except ReplayError Unit → Prop
  | beginRefused (h : s.callNumber .begin ∈ s.refusals.begins) :
    Transcript s sqls [.begin] (.error (.transaction (refused "begin" (s.callNumber .begin))))
  | statementRejected {first : List Text} {sql : Text} {rest : List Text}
    (begun : s.callNumber .begin ∉ s.refusals.begins) (split : sqls = first ++ sql :: rest)
    (accepted : ∀ x ∈ first, s.refusals.rejects x = false) (h : s.refusals.rejects sql = true) :
    Transcript s sqls ([.begin] ++ (first ++ [sql]).map .execute ++ [.rollback])
      (.error (.ofStatement (first.length + 1) sql (rejected sql)))
  | commitRefused (begun : s.callNumber .begin ∉ s.refusals.begins)
    (accepted : ∀ x ∈ sqls, s.refusals.rejects x = false)
    (h : s.callNumber .commit ∈ s.refusals.commits) :
    Transcript s sqls ([.begin] ++ sqls.map .execute ++ [.commit, .rollback])
      (.error (.transaction (refused "commit" (s.callNumber .commit))))
  | committed (begun : s.callNumber .begin ∉ s.refusals.begins)
    (accepted : ∀ x ∈ sqls, s.refusals.rejects x = false)
    (h : s.callNumber .commit ∉ s.refusals.commits) :
    Transcript s sqls ([.begin] ++ sqls.map .execute ++ [.commit]) (.ok ())

theorem rollback_events (s : Rehearsal) : s.rollback.1.events = s.events ++ [.rollback] := by
  by_cases h : s.callNumber .rollback ∈ s.refusals.rollbacks
  · rw [rollback_refused h]
    rfl
  · rw [rollback_granted h]
    rfl

theorem callNumber_commit (s : Rehearsal) (sqls : List Text) :
    ((s.record .begin).executed sqls sqls).callNumber .commit = s.callNumber .commit := by
  rw [callNumber_executed _ _ _ (e := .commit) (by simp), callNumber_record (by decide)]

theorem exits_transcript {s u : Rehearsal} {sqls : List Text} {answer : Except ReplayError Unit}
    (h : Exits s sqls u answer) :
    ∃ added, u.events = s.events ++ added ∧ Transcript s sqls added answer := by
  cases h with
  | beginRefused h => exact ⟨_, rfl, .beginRefused h⟩
  | statementRejected first sql rest begun split accepted h =>
    refine ⟨_, ?_, .statementRejected begun split accepted h⟩
    rw [rollback_events]
    simp only [executed, record, List.append_assoc]
  | commitRefused call begun accepted number h =>
    rw [callNumber_commit] at number
    subst number
    refine ⟨_, ?_, .commitRefused begun accepted h⟩
    rw [rollback_events]
    simp only [executed, record, List.append_assoc, List.cons_append, List.nil_append]
  | committed begun accepted h =>
    rw [callNumber_commit] at h
    refine ⟨_, ?_, .committed begun accepted h⟩
    simp only [executed, record, List.append_assoc]

theorem rejected_prefix {r : Refusals} {first first' rest rest' : List Text} {sql sql' : Text}
    (h : first ++ sql :: rest = first' ++ sql' :: rest')
    (accepted : ∀ x ∈ first, r.rejects x = false) (hs : r.rejects sql' = true) :
    first ++ [sql] <+: first' ++ [sql'] := by
  induction first generalizing first' with
  | nil =>
    cases first' with
    | nil =>
      obtain rfl := (List.cons.inj h).1
      exact List.prefix_refl _
    | cons x xs =>
      rw [(List.cons.inj h).1]
      exact List.prefix_append [x] (xs ++ [sql'])
  | cons x xs ih =>
    cases first' with
    | nil =>
      rw [← (List.cons.inj h).1, accepted x List.mem_cons_self] at hs
      cases hs
    | cons y ys =>
      obtain ⟨rfl, hrest⟩ := List.cons.inj h
      exact List.cons_prefix_cons.mpr
        ⟨rfl, ih hrest fun z hz => accepted z (List.mem_cons_of_mem x hz)⟩

theorem split_unique {r : Refusals} {first first' rest rest' : List Text} {sql sql' : Text}
    (h : first ++ sql :: rest = first' ++ sql' :: rest')
    (accepted : ∀ x ∈ first, r.rejects x = false) (accepted' : ∀ x ∈ first', r.rejects x = false)
    (hs : r.rejects sql = true) (hs' : r.rejects sql' = true) : first = first' ∧ sql = sql' := by
  have hle := rejected_prefix h accepted hs'
  have hge := rejected_prefix h.symm accepted' hs
  have heq := hle.eq_of_length_le hge.length_le
  obtain ⟨rfl, hlast⟩ := List.append_inj' heq rfl
  exact ⟨rfl, List.singleton_inj.mp hlast⟩

theorem not_all_accepted {r : Refusals} {sqls first rest : List Text} {sql : Text}
    (split : sqls = first ++ sql :: rest) (h : r.rejects sql = true) :
    ¬ ∀ x ∈ sqls, r.rejects x = false := by
  intro hall
  have hmem : sql ∈ sqls := by rw [split]; exact List.mem_append_right first List.mem_cons_self
  rw [hall sql hmem] at h
  cases h

theorem transcript_unique {s : Rehearsal} {sqls : List Text} {es es' : List Event}
    {answer answer' : Except ReplayError Unit} (h : Transcript s sqls es answer)
    (h' : Transcript s sqls es' answer') : es = es' ∧ answer = answer' := by
  cases h with
  | beginRefused h =>
    cases h' with
    | beginRefused => exact ⟨rfl, rfl⟩
    | statementRejected begun | commitRefused begun | committed begun => exact absurd h begun
  | statementRejected begun split accepted h =>
    cases h' with
    | beginRefused refused => exact absurd refused begun
    | statementRejected begun' split' accepted' h' =>
      obtain ⟨rfl, rfl⟩ := split_unique (split.symm.trans split') accepted accepted' h h'
      exact ⟨rfl, rfl⟩
    | commitRefused _ all | committed _ all => exact absurd all (not_all_accepted split h)
  | commitRefused begun accepted h =>
    cases h' with
    | beginRefused refused => exact absurd refused begun
    | statementRejected _ split _ rejected => exact absurd accepted (not_all_accepted split rejected)
    | commitRefused => exact ⟨rfl, rfl⟩
    | committed _ _ granted => exact absurd h granted
  | committed begun accepted h =>
    cases h' with
    | beginRefused refused => exact absurd refused begun
    | statementRejected _ split _ rejected => exact absurd accepted (not_all_accepted split rejected)
    | commitRefused _ _ refused => exact absurd refused h
    | committed => exact ⟨rfl, rfl⟩

theorem statements_of_transcript {s : Rehearsal} {sqls first rest : List Text} {sql : Text}
    {es : List Event} {answer : Except ReplayError Unit} (h : Transcript s sqls es answer)
    (hsplit : sqls = first ++ sql :: rest) (hs : s.refusals.rejects sql = true) :
    es.filterMap Event.statement? <+: first ++ [sql] := by
  cases h with
  | beginRefused => exact List.nil_prefix
  | @statementRejected first' sql' rest' begun split accepted h =>
    have hprefix := rejected_prefix (split.symm.trans hsplit) accepted hs
    simp only [List.filterMap_append, Event.statement?_execute]
    change [] ++ (first' ++ [sql']) ++ [] <+: first ++ [sql]
    rw [List.nil_append, List.append_nil]
    exact hprefix
  | commitRefused _ all | committed _ all => exact absurd all (not_all_accepted hsplit hs)

theorem ends_of_transcript {s : Rehearsal} {sqls : List Text} {es : List Event}
    {answer : Except ReplayError Unit} (h : Transcript s sqls es answer) :
    (es.filter Event.isEnd).length ≤ 1 ∨ es.filter Event.isEnd = [.commit, .rollback] ∧
      answer = .error (.transaction (refused "commit" (s.callNumber .commit))) := by
  cases h with
  | beginRefused => exact .inl (Nat.zero_le 1)
  | statementRejected =>
    simp only [List.filter_append, Event.isEnd_execute]
    exact .inl (Nat.le_refl 1)
  | commitRefused =>
    refine .inr ⟨?_, rfl⟩
    simp only [List.filter_append, Event.isEnd_execute]
    rfl
  | committed =>
    simp only [List.filter_append, Event.isEnd_execute]
    exact .inl (Nat.le_refl 1)

/-- The events that one transaction adds, and its answer. The statements among them go no further
than one that is rejected, and only a refused commit has another end behind it. -/
theorem executeAll_transcript (s : Rehearsal) (sqls : List Text) :
    let ran := executeAll s sqls
    ∃ added, ran.session.events = s.events ++ added ∧
      (∀ events answer, Transcript s sqls events answer ↔ events = added ∧ answer = ran.result) ∧
      (∀ first sql rest, sqls = first ++ sql :: rest → s.refusals.rejects sql = true →
        added.filterMap Event.statement? <+: first ++ [sql]) ∧
      ((added.filter Event.isEnd).length ≤ 1 ∨ added.filter Event.isEnd = [.commit, .rollback] ∧
        ran.result = .error (.transaction (refused "commit" (s.callNumber .commit)))) := by
  intro ran
  obtain ⟨added, hevents, htranscript⟩ := exits_transcript (executeAll_exits s sqls)
  refine ⟨added, hevents, fun events answer => ⟨fun h => transcript_unique h htranscript, ?_⟩,
    fun first sql rest => statements_of_transcript htranscript, ends_of_transcript htranscript⟩
  rintro ⟨rfl, rfl⟩
  exact htranscript

def unwillingRehearsal : Rehearsal where
  refusals := ⟨[['X']], [], [], [1]⟩
  events := [.begin, .execute ['Z'], .commit]
  committed := [['Z']]
  pending := []

theorem executeAll_transcript_unwilling :
    let sqls : List Text := [['A'], ['X'], ['B'], ['X']]
    let ran := executeAll unwillingRehearsal sqls
    let added : List Event := [.begin, .execute ['A'], .execute ['X'], .rollback]
    sqls = [['A'], ['X'], ['B']] ++ ['X'] :: [] ∧
      unwillingRehearsal.refusals.rejects ['X'] = true ∧
      ran.session.events = unwillingRehearsal.events ++ added ∧
      Transcript unwillingRehearsal sqls added ran.result ∧
      added.filterMap Event.statement? <+: [['A'], ['X'], ['B']] ++ [['X']] := by
  intro sqls ran added
  have hsplit : sqls = [['A'], ['X'], ['B']] ++ ['X'] :: [] := rfl
  have hrejected : unwillingRehearsal.refusals.rejects ['X'] = true := by decide
  obtain ⟨es, hevents, honly, hstatements, -⟩ := executeAll_transcript unwillingRehearsal sqls
  have hadded : ran.session.events = unwillingRehearsal.events ++ added := by decide
  obtain rfl : added = es := List.append_cancel_left (hadded.symm.trans hevents)
  exact ⟨hsplit, hrejected, hadded, (honly added ran.result).mpr ⟨rfl, rfl⟩,
    hstatements _ _ _ hsplit hrejected⟩

end Rehearsal

end ScriptReplay

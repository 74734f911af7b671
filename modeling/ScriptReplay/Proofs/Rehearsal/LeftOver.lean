import Mathlib
import ScriptReplay.Proofs.Rehearsal.Atomicity

/-!
What a rollback that is refused leaves behind. The statements a file executed before it failed stay
pending, and the next commit takes them along, whichever file it is of. Only a rollback of a file in
between that is granted takes them away.
-/

namespace ScriptReplay.Rehearsal

/-- What the failed transaction of `sqls` on `s` can leave pending in `u`: nothing, or, its rollback
refused, what was pending before and the first statements of it. -/
def Leaves (s : Rehearsal) (sqls : List Text) (u : Rehearsal) : Prop :=
  u.pending = [] ∨ ∃ held, u.pending = s.pending ++ held ∧ held <+: sqls ∧
    (held ≠ [] → s.callNumber .rollback ∈ s.refusals.rollbacks)

theorem leaves_rollback {s u : Rehearsal} {sqls held : List Text} (hheld : held <+: sqls)
    (hpending : u.pending = s.pending ++ held) (hrefusals : u.refusals = s.refusals)
    (hcall : u.callNumber .rollback = s.callNumber .rollback) : Leaves s sqls u.rollback.1 := by
  by_cases h : u.callNumber .rollback ∈ u.refusals.rollbacks
  · right
    rw [rollback_refused h]
    rw [hcall, hrefusals] at h
    exact ⟨held, hpending, hheld, fun _ => h⟩
  · left
    rw [rollback_granted h]

theorem exits_failed {s u : Rehearsal} {sqls : List Text} {e : ReplayError}
    (h : Exits s sqls u (.error e)) : u.committed = s.committed ∧ Leaves s sqls u := by
  cases h with
  | beginRefused => exact ⟨rfl, .inr ⟨[], (List.append_nil _).symm, List.nil_prefix, absurd rfl⟩⟩
  | statementRejected first sql rest begun split =>
    refine ⟨rollback_committed _, leaves_rollback ⟨sql :: rest, split.symm⟩ rfl rfl ?_⟩
    rw [callNumber_executed _ _ _ (e := .rollback) (by simp), callNumber_record (by decide)]
  | commitRefused =>
    refine ⟨rollback_committed _, leaves_rollback (List.prefix_refl sqls) rfl rfl ?_⟩
    rw [callNumber_record (by decide), callNumber_executed _ _ _ (e := .rollback) (by simp),
      callNumber_record (by decide)]

theorem exits_succeeded {s u : Rehearsal} {sqls : List Text} (h : Exits s sqls u (.ok ())) :
    u.committed = s.committed ++ (s.pending ++ sqls) ∧ u.pending = [] := by
  cases h with
  | committed => exact ⟨rfl, rfl⟩

end ScriptReplay.Rehearsal

namespace ScriptReplay.Replay

open Rehearsal Execution

def leftover (r : FileRun Rehearsal) : List Text :=
  r.after.pending.drop r.before.pending.length

def leftovers (rs : List (FileRun Rehearsal)) : List Text :=
  (rs.rtakeWhile (·.after.pending ≠ [])).flatMap leftover

def reported (t : Tree) (r : FileRun Rehearsal) : List Text :=
  if r.report.outcome.isSuccess then statementsOf t r.path else []

inductive Ended (t : Tree) (r : FileRun Rehearsal) : Prop
  | kept (held : List Text) (pending : r.after.pending = r.before.pending ++ held)
    (committed : r.after.committed = r.before.committed) (none : reported t r = [])
    (refused : held ≠ [] → (∃ e, r.report.outcome = .rolledBack e) ∧
      r.before.callNumber .rollback ∈ r.before.refusals.rollbacks ∧ held <+: statementsOf t r.path)
  | undone (failed : ∃ e, r.report.outcome = .rolledBack e) (pending : r.after.pending = [])
    (committed : r.after.committed = r.before.committed)
  | done (success : r.report.outcome.isSuccess = true) (pending : r.after.pending = [])
    (committed : r.after.committed =
      r.before.committed ++ (r.before.pending ++ statementsOf t r.path))

theorem reported_of_rolledBack {t : Tree} {r : FileRun Rehearsal}
    (h : ∃ e, r.report.outcome = .rolledBack e) : reported t r = [] := by
  obtain ⟨e, he⟩ := h
  have hs : r.report.outcome.isSuccess = false := by rw [he]; rfl
  rw [reported, hs, if_neg Bool.false_ne_true]

theorem ended_of_untouched {t : Tree} {r : FileRun Rehearsal} (hsession : r.after = r.before)
    (hnone : statementsOf t r.path = []) : Ended t r := by
  refine .kept [] ?_ (by rw [hsession]) (by rw [reported, hnone, ite_self]) (absurd rfl)
  rw [hsession, List.append_nil]

theorem runFile_ended (t : Tree) (s : Rehearsal) (p : Path) :
    Ended t ⟨p, s, (runFile t s p).session, (runFile t s p).result⟩ := by
  cases h : t.readText p with
  | error e =>
    apply ended_of_untouched (runFile_unreadable h).1
    rw [statementsOf, h]
  | ok source =>
    obtain ⟨hsession, houtcome⟩ := runFile_readable (s := s) h
    have hstatements : statementsOf t p = (Script.read source).statements := by
      rw [statementsOf, h]
    by_cases hn : (Script.read source).statements = []
    · apply ended_of_untouched
      · exact hsession.trans (executeScript_blank hn).1
      · exact hstatements.trans hn
    · obtain ⟨hs, hr⟩ := executeScript_statements (s := s) hn
      have hexits := executeAll_exits s (Script.read source).statements
      rw [← hs, ← hsession, ← hstatements] at hexits
      rw [hr, ← hstatements] at houtcome
      generalize (executeAll s (statementsOf t p)).result = answer at hexits houtcome
      cases answer with
      | ok _ =>
        obtain ⟨hcommitted, hpending⟩ := exits_succeeded hexits
        have hsuccess : (runFile t s p).result.outcome.isSuccess = true := by rw [houtcome]; rfl
        exact .done hsuccess hpending hcommitted
      | error e =>
        have hfailed : ∃ e, (runFile t s p).result.outcome = .rolledBack e := ⟨_, houtcome⟩
        obtain ⟨hcommitted, hp | ⟨held, hp, hbegins, hrefused⟩⟩ := exits_failed hexits
        · exact .undone hfailed hp hcommitted
        · exact .kept held hp hcommitted (reported_of_rolledBack hfailed)
            fun hne => ⟨hfailed, hrefused hne, hbegins⟩

theorem ended_of_mem {t : Tree} {s : Rehearsal} {ps : List Path} {r : FileRun Rehearsal}
    (h : r ∈ fileRuns t s ps) : Ended t r := by
  induction ps generalizing s with
  | nil => cases h
  | cons p ps ih =>
    rcases List.mem_cons.mp h with rfl | h
    · exact runFile_ended t s p
    · exact ih h

theorem pending_of_ended {t : Tree} {r : FileRun Rehearsal} (h : Ended t r) :
    r.after.pending = [] ∨ r.after.pending = r.before.pending ++ leftover r := by
  cases h with
  | kept held pending =>
    right
    rw [leftover, pending, List.drop_left]
  | undone failed pending => exact .inl pending
  | done success pending => exact .inl pending

theorem kept_of_leftover {t : Tree} {r : FileRun Rehearsal} (h : Ended t r) (hne : leftover r ≠ []) :
    (∃ e, r.report.outcome = .rolledBack e) ∧
      r.before.callNumber .rollback ∈ r.before.refusals.rollbacks ∧
      leftover r <+: statementsOf t r.path ∧ r.after.pending ≠ [] := by
  have hpending : r.after.pending ≠ [] := fun hn => hne (by rw [leftover, hn, List.drop_nil])
  cases h with
  | kept held pending committed none refused =>
    have hheld : leftover r = held := by rw [leftover, pending, List.drop_left]
    rw [hheld] at hne ⊢
    obtain ⟨hfailed, hrollback, hbegins⟩ := refused hne
    exact ⟨hfailed, hrollback, hbegins, hpending⟩
  | undone failed pending => exact absurd pending hpending
  | done success pending => exact absurd pending hpending

theorem done_of_committed {t : Tree} {r : FileRun Rehearsal} (h : Ended t r)
    (hne : r.after.committed ≠ r.before.committed) :
    r.report.outcome.isSuccess = true ∧
      r.after.committed = r.before.committed ++ (r.before.pending ++ statementsOf t r.path) := by
  cases h with
  | kept held pending committed => exact absurd committed hne
  | undone failed pending committed => exact absurd committed hne
  | done success pending committed => exact ⟨success, committed⟩

theorem leftovers_concat_of_cleared {r : FileRun Rehearsal} (h : r.after.pending = [])
    (rs : List (FileRun Rehearsal)) : leftovers (rs ++ [r]) = [] := by
  rw [leftovers, List.rtakeWhile_concat_neg _ _ _ (by simp [h]), List.flatMap_nil]

theorem leftovers_concat {r : FileRun Rehearsal} (h : r.after.pending ≠ [])
    (rs : List (FileRun Rehearsal)) : leftovers (rs ++ [r]) = leftovers rs ++ leftover r := by
  rw [leftovers, List.rtakeWhile_concat_pos _ _ _ (by simp [h]), List.flatMap_append,
    List.flatMap_singleton, leftovers]

theorem pending_eq_leftovers {t : Tree} {s : Rehearsal} {ps : List Path}
    {rs qs : List (FileRun Rehearsal)} (hp : s.pending = []) (h : fileRuns t s ps = rs ++ qs) :
    (sessionAfter s rs).pending = leftovers rs := by
  -- From the last file back, as `leftovers` is: that file cleared the session or added to it.
  induction rs using List.reverseRecOn generalizing qs with
  | nil => exact hp
  | append_singleton rs r ih =>
    rw [List.append_assoc] at h
    have hmem : r ∈ fileRuns t s ps := by rw [h]; simp
    have hafter : (sessionAfter s (rs ++ [r])).pending = r.after.pending := by
      rw [sessionAfter_append]
      rfl
    rw [hafter]
    by_cases hn : r.after.pending = []
    · rw [leftovers_concat_of_cleared hn, hn]
    · rw [leftovers_concat hn, ← ih h, ← before_eq_sessionAfter h]
      exact (pending_of_ended (ended_of_mem hmem)).resolve_left hn

theorem exists_leftover {rs : List (FileRun Rehearsal)} (h : leftovers rs ≠ []) :
    ∃ before q between, rs = before ++ q :: between ∧ leftover q ≠ [] ∧
      ∀ m ∈ between, m.after.pending ≠ [] := by
  have hsome : ∃ q ∈ rs.rtakeWhile (·.after.pending ≠ []), leftover q ≠ [] := by
    by_contra hnone
    apply h
    apply List.flatMap_eq_nil_iff.mpr
    intro q hq
    by_contra hleft
    exact hnone ⟨q, hq, hleft⟩
  obtain ⟨q, hq, hleft⟩ := hsome
  obtain ⟨first, between, hsplit⟩ := List.append_of_mem hq
  have hrs : rs.rdropWhile (·.after.pending ≠ []) ++ rs.rtakeWhile (·.after.pending ≠ []) = rs :=
    List.rdropWhile_append_rtakeWhile
  refine ⟨rs.rdropWhile (·.after.pending ≠ []) ++ first, q, between, ?_, hleft, ?_⟩
  · rw [List.append_assoc, ← hsplit, hrs]
  · intro m hm
    have hmem : m ∈ rs.rtakeWhile (·.after.pending ≠ []) := by
      rw [hsplit]
      exact List.mem_append_right _ (List.mem_cons_of_mem q hm)
    have hpending := List.mem_rtakeWhile_imp hmem
    exact of_decide_eq_true hpending

theorem pending_or_undone {t : Tree} {s : Rehearsal} {ps : List Path} (hs : s.pending ≠ [])
    (hown : ∀ r ∈ fileRuns t s ps, r.after.committed = r.before.committed ++ reported t r) :
    (sessionAfter s (fileRuns t s ps)).pending ≠ [] ∨
      ∃ m ∈ fileRuns t s ps, (∃ e, m.report.outcome = .rolledBack e) ∧ m.after.pending = [] := by
  induction ps generalizing s with
  | nil => exact .inl hs
  | cons p ps ih =>
    obtain ⟨hfirst, hrest⟩ := List.forall_mem_cons.mp hown
    cases runFile_ended t s p with
    | kept held pending =>
      have hkept : (runFile t s p).session.pending ≠ [] := by
        rw [pending]
        exact List.append_ne_nil_of_left_ne_nil hs held
      rcases ih hkept hrest with h | ⟨m, hm, hundone⟩
      · exact .inl h
      · exact .inr ⟨m, List.mem_cons_of_mem _ hm, hundone⟩
    | undone failed pending => exact .inr ⟨_, List.mem_cons_self, failed, pending⟩
    | done success pending committed =>
      -- Its commit would take along what is pending, which is not its own.
      exfalso
      rw [committed, reported, if_pos success, List.append_cancel_left_eq] at hfirst
      exact hs (List.self_eq_append_left.mp hfirst.symm)

theorem undone_between {t : Tree} {s : Rehearsal} {ps : List Path}
    {before between after : List (FileRun Rehearsal)} {q r : FileRun Rehearsal}
    (h : fileRuns t s ps = before ++ q :: (between ++ r :: after))
    (hown : ∀ r ∈ fileRuns t s ps, r.after.committed = r.before.committed ++ reported t r)
    (hleft : leftover q ≠ []) (hne : r.after.committed ≠ r.before.committed) :
    ∃ m ∈ between, (∃ e, m.report.outcome = .rolledBack e) ∧ m.after.pending = [] := by
  have hq : q ∈ fileRuns t s ps := by rw [h]; simp
  have hr : r ∈ fileRuns t s ps := by rw [h]; simp
  obtain ⟨rest, hrest⟩ := exists_fileRuns_behind h
  obtain ⟨files, -, hfiles, -⟩ := fileRuns_eq_append hrest
  have hmem : ∀ m ∈ fileRuns t q.after files, m ∈ fileRuns t s ps := by
    intro m hm
    rw [← hfiles] at hm
    rw [h]
    simp [hm]
  obtain ⟨-, -, -, hkept⟩ := kept_of_leftover (ended_of_mem hq) hleft
  rcases pending_or_undone hkept (fun m hm => hown m (hmem m hm)) with hstill | hundone
  · exfalso
    obtain ⟨hsuccess, hcommitted⟩ := done_of_committed (ended_of_mem hr) hne
    rw [hown r hr, reported, if_pos hsuccess, List.append_cancel_left_eq] at hcommitted
    rw [← hfiles, ← before_eq_sessionAfter hrest] at hstill
    exact hstill (List.self_eq_append_left.mp hcommitted)
  · rwa [hfiles]

theorem committed_of_ended {t : Tree} {r : FileRun Rehearsal} (h : Ended t r)
    (hnone : r.after.committed ≠ r.before.committed → r.before.pending = []) :
    r.after.committed = r.before.committed ++ reported t r := by
  cases h with
  | kept held pending committed none => rw [committed, none, List.append_nil]
  | undone failed pending committed =>
    rw [committed, reported_of_rolledBack failed, List.append_nil]
  | done success pending committed =>
    by_cases hne : r.after.committed = r.before.committed
    · rw [committed, List.append_right_eq_self, List.append_eq_nil_iff] at hne
      rw [committed, reported, if_pos success, hne.1, List.nil_append]
    · rw [committed, reported, if_pos success, hnone hne, List.nil_append]

/-- A file commits its own statements and all that files before it left. Those that failed keep out,
exactly if between each that left something and a commit there is a rollback that is granted. -/
theorem fileRuns_keepOut_iff (t : Tree) (s : Rehearsal) (ps : List Path) (hp : s.pending = []) :
    let runs := fileRuns t s ps
    (runFiles t s ps).session = sessionAfter s runs ∧
      (runFiles t s ps).result = runs.map (·.report) ∧
      (∀ r ∈ runs, leftover r ≠ [] → (∃ e, r.report.outcome = .rolledBack e) ∧
        r.before.callNumber .rollback ∈ r.before.refusals.rollbacks ∧
        leftover r <+: statementsOf t r.path) ∧
      (∀ (before after : List (FileRun Rehearsal)) (r : FileRun Rehearsal),
        runs = before ++ r :: after → r.after.committed ≠ r.before.committed →
          r.report.outcome.isSuccess = true ∧
            r.after.committed = r.before.committed ++ (leftovers before ++ statementsOf t r.path)) ∧
      ((∀ r ∈ runs, r.after.committed = r.before.committed ++ reported t r) ↔
        ∀ (before between after : List (FileRun Rehearsal)) (q r : FileRun Rehearsal),
          runs = before ++ q :: (between ++ r :: after) →
          leftover q ≠ [] → r.after.committed ≠ r.before.committed →
            ∃ m ∈ between, (∃ e, m.report.outcome = .rolledBack e) ∧ m.after.pending = []) := by
  intro runs
  obtain ⟨hsession, hreports⟩ := runFiles_eq_fileRuns t s ps
  have hpending : ∀ (before after : List (FileRun Rehearsal)) (r : FileRun Rehearsal),
      runs = before ++ r :: after → r.before.pending = leftovers before := by
    intro before after r hruns
    rw [before_eq_sessionAfter hruns, pending_eq_leftovers hp hruns]
  refine ⟨hsession, hreports, ?_, ?_, ?_, ?_⟩
  · intro r hr hne
    obtain ⟨hfailed, hrollback, hbegins, -⟩ := kept_of_leftover (ended_of_mem hr) hne
    exact ⟨hfailed, hrollback, hbegins⟩
  · intro before after r hruns hne
    have hr : r ∈ runs := by rw [hruns]; simp
    rw [← hpending before after r hruns]
    exact done_of_committed (ended_of_mem hr) hne
  · intro hown before between after q r hruns hleft hne
    exact undone_between hruns hown hleft hne
  · intro hbetween r hr
    obtain ⟨before, after, hruns⟩ := List.append_of_mem hr
    apply committed_of_ended (ended_of_mem hr)
    intro hne
    rw [hpending before after r hruns]
    by_contra hsome
    obtain ⟨first, q, between, rfl, hleft, hfull⟩ := exists_leftover hsome
    rw [List.append_assoc, List.cons_append] at hruns
    obtain ⟨m, hm, -, hclear⟩ := hbetween first between after q r hruns hleft hne
    exact hfull m hm hclear

def leavingScripts : Tree where
  -- `1`, `2` and `3` hold `A;X;`, `X;` and `B;`.
  nodes := [([[0x31]], .file (.bytes [0x41, 0x3B, 0x58, 0x3B])),
    ([[0x32]], .file (.bytes [0x58, 0x3B])), ([[0x33]], .file (.bytes [0x42, 0x3B]))]
  here := []

def refusingRollback : Rehearsal := .fresh ⟨[['X']], [], [], [1]⟩

def rollbackRefused : Rehearsal :=
  { refusingRollback with
    events := [.begin, .execute ['A'], .execute ['X'], .rollback]
    pending := [['A']] }

def rollbackGranted : Rehearsal :=
  { rollbackRefused with
    events := rollbackRefused.events ++ [.begin, .execute ['X'], .rollback]
    pending := [] }

theorem session_first :
    (runFile leavingScripts refusingRollback [0x31]).session = rollbackRefused := by
  have hread : leavingScripts.readText [0x31] = .ok ['A', ';', 'X', ';'] := by cbv
  rw [(runFile_readable hread).1]
  cbv

theorem session_second :
    (runFile leavingScripts rollbackRefused [0x32]).session = rollbackGranted := by
  have hread : leavingScripts.readText [0x32] = .ok ['X', ';'] := by cbv
  rw [(runFile_readable hread).1]
  cbv

theorem committed_third :
    (runFile leavingScripts rollbackRefused [0x33]).session.committed = [['A'], ['B']] ∧
      (runFile leavingScripts rollbackGranted [0x33]).session.committed = [['B']] := by
  have hread : leavingScripts.readText [0x33] = .ok ['B', ';'] := by cbv
  rw [(runFile_readable hread).1, (runFile_readable hread).1]
  exact ⟨by cbv, by cbv⟩

def firstRun : FileRun Rehearsal :=
  ⟨[0x31], refusingRollback, rollbackRefused, (runFile leavingScripts refusingRollback [0x31]).result⟩

def secondRun : FileRun Rehearsal :=
  ⟨[0x32], rollbackRefused, rollbackGranted, (runFile leavingScripts rollbackRefused [0x32]).result⟩

def thirdRun (s : Rehearsal) : FileRun Rehearsal :=
  ⟨[0x33], s, (runFile leavingScripts s [0x33]).session, (runFile leavingScripts s [0x33]).result⟩

theorem fileRuns_keepOut_leavingScripts :
    refusingRollback.pending = [] ∧
      fileRuns leavingScripts refusingRollback [[0x31], [0x32], [0x33]] =
        [firstRun, secondRun, thirdRun rollbackGranted] ∧
      leftover firstRun = [['A']] ∧ (∃ e, firstRun.report.outcome = .rolledBack e) ∧
      (thirdRun rollbackGranted).after.committed = statementsOf leavingScripts [0x33] := by
  have hp : refusingRollback.pending = [] := rfl
  have hruns : fileRuns leavingScripts refusingRollback [[0x31], [0x32], [0x33]] =
      [firstRun, secondRun, thirdRun rollbackGranted] := by
    simp only [fileRuns, session_first, session_second]
    rfl
  have hleftover : leftover firstRun = [['A']] := rfl
  have hcleared : leftovers [firstRun, secondRun] = [] :=
    leftovers_concat_of_cleared (r := secondRun) rfl [firstRun]
  have hne : (thirdRun rollbackGranted).after.committed ≠ rollbackGranted.committed := by
    rw [thirdRun, committed_third.2]
    decide
  obtain ⟨-, -, hleft, hcommit, -⟩ :=
    fileRuns_keepOut_iff leavingScripts refusingRollback [[0x31], [0x32], [0x33]] hp
  rw [hruns] at hleft
  obtain ⟨hfailed, -, -⟩ := hleft firstRun List.mem_cons_self (by rw [hleftover]; decide)
  obtain ⟨-, hthird⟩ := hcommit [firstRun, secondRun] [] _ hruns hne
  rw [hcleared] at hthird
  exact ⟨hp, hruns, hleftover, hfailed, hthird⟩

theorem runFiles_commit_leftover :
    refusingRollback.pending = [] ∧
      fileRuns leavingScripts refusingRollback [[0x31], [0x33]] =
        [firstRun, thirdRun rollbackRefused] ∧
      (∃ e, firstRun.report.outcome = .rolledBack e) ∧
      statementsOf leavingScripts [0x31] = [['A'], ['X']] ∧
      statementsOf leavingScripts [0x33] = [['B']] ∧
      (runFiles leavingScripts refusingRollback [[0x31], [0x33]]).session.committed =
        [['A'], ['B']] := by
  have hruns : fileRuns leavingScripts refusingRollback [[0x31], [0x33]] =
      [firstRun, thirdRun rollbackRefused] := by
    simp only [fileRuns, session_first]
    rfl
  have hfirst : Ended leavingScripts firstRun := ended_of_mem (by rw [hruns]; simp)
  obtain ⟨hfailed, -⟩ := kept_of_leftover hfirst (by decide)
  obtain ⟨hsession, -⟩ :=
    runFiles_eq_fileRuns leavingScripts refusingRollback [[0x31], [0x33]]
  refine ⟨rfl, hruns, hfailed, by cbv, by cbv, ?_⟩
  rw [hsession, hruns]
  exact committed_third.1

end ScriptReplay.Replay

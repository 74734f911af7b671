import ScriptReplay.Proofs.Engine.Laws
import ScriptReplay.Session.Database

namespace ScriptReplay.Database

open Sql Engine

def role (st : Statement) : Role :=
  match st.command with
  | .begin => .begin
  | .commit => .commit
  | .rollback => .rollback
  | _ => .plain

def apply (st : Statement) (content : Access × Tables) : Option (Access × Tables) :=
  match st.command with
  | .nothing => some content
  | .change c => (content.1.apply st.source c content.2).toOption.map fun later => (content.1, later)
  | _ => none

def semantics : Semantics Database Statement (Access × Tables) where
  statements := statements
  role := role
  step db st := db.run st.source st.command
  committed db := (db.access, db.committed)
  seen db := (db.access, db.current)
  apply := apply

theorem command_of_role {st : Statement} :
    (role st = .begin → st.command = .begin) ∧ (role st = .commit → st.command = .commit) ∧
      (role st = .rollback → st.command = .rollback) := by
  unfold role
  split <;> simp_all

theorem change_done {db u : Database} {source : Text} {c : Change}
    (h : db.change source c = (u, .ok ())) :
    u.access = db.access ∧ u.working.isNone = db.working.isNone ∧
      db.access.apply source c db.current = .ok u.current ∧
      (db.working.isNone = false → u.committed = db.committed) := by
  unfold change at h
  cases hw : db.working <;> cases ha : db.access.apply source c db.current <;>
    simp only [hw, ha] at h <;> cases h
  · exact ⟨rfl, rfl, rfl, fun inside => nomatch inside⟩
  · exact ⟨rfl, rfl, rfl, fun _ => rfl⟩

theorem change_failed {db u : Database} {source : Text} {c : Change} {e : SessionError}
    (h : db.change source c = (u, .error e)) :
    u = db ∧ db.access.apply source c db.current = .error e := by
  unfold change at h
  cases hw : db.working <;> cases ha : db.access.apply source c db.current <;>
    simp only [hw, ha] at h <;> cases h <;> exact ⟨rfl, rfl⟩

theorem run_failed {db u : Database} {source : Text} {command : Command} {e : SessionError}
    (h : db.run source command = (u, .error e)) : u = db := by
  unfold run at h
  cases command with
  | nothing => cases h
  | begin | commit | rollback =>
    cases hw : db.working <;> simp only [hw] at h <;> cases h
    rfl
  | change c => exact (change_failed h).1
  | refused begun fault => cases h; rfl

theorem begin_done {db u : Database} {source : Text} (h : db.run source .begin = (u, .ok ())) :
    db.working = none ∧ u = { db with working := some ⟨db.committed, false⟩ } := by
  unfold run at h
  cases hw : db.working <;> simp only [hw] at h <;> cases h
  exact ⟨rfl, rfl⟩

theorem commit_done {db u : Database} {source : Text} (h : db.run source .commit = (u, .ok ())) :
    ∃ work, db.working = some work ∧ u = db.settle work := by
  unfold run at h
  cases hw : db.working <;> simp only [hw] at h <;> cases h
  exact ⟨_, rfl, rfl⟩

theorem rollback_run (db : Database) (source : Text) :
    let u := (db.run source .rollback).1
    u.working = none ∧ u.access = db.access ∧ u.committed = db.committed := by
  unfold run
  cases hw : db.working with
  | none => exact ⟨hw, rfl, rfl⟩
  | some work => exact ⟨rfl, rfl, rfl⟩

theorem lawful_semantics : semantics.Lawful where
  batch db sql := rfl
  begin_text := ⟨⟨"BEGIN".toList, tokens 0 "BEGIN".toList⟩, by decide +kernel, by decide +kernel⟩
  commit_text := ⟨⟨"COMMIT".toList, tokens 0 "COMMIT".toList⟩, by decide +kernel, by decide +kernel⟩
  rollback_text :=
    ⟨⟨"ROLLBACK".toList, tokens 0 "ROLLBACK".toList⟩, by decide +kernel, by decide +kernel⟩
  seen_of_free := by
    intro db free
    have hw : db.working = none := Option.isNone_iff_eq_none.mp free
    simp only [semantics, current, hw]
  begun := by
    intro db u st hrole done
    change db.run st.source st.command = _ at done
    rw [command_of_role.1 hrole] at done
    obtain ⟨hw, rfl⟩ := begin_done done
    exact ⟨Option.isNone_iff_eq_none.mpr hw, rfl, rfl, rfl⟩
  committed := by
    intro db u st hrole done
    change db.run st.source st.command = _ at done
    rw [command_of_role.2.1 hrole] at done
    obtain ⟨work, hw, rfl⟩ := commit_done done
    refine ⟨congrArg Option.isNone hw, rfl, ?_⟩
    simp only [semantics, settle, current, hw]
  rolledBack := by
    intro db st hrole
    obtain ⟨hworking, haccess, hcommitted⟩ := rollback_run db st.source
    rw [← command_of_role.2.2 hrole] at hworking haccess hcommitted
    exact ⟨Option.isNone_iff_eq_none.mpr hworking, Prod.ext haccess hcommitted⟩
  changed := by
    intro db u st hrole done
    change db.run st.source st.command = _ at done
    cases hc : st.command with
    | nothing =>
      rw [hc] at done
      cases done
      refine ⟨rfl, ?_, fun _ => rfl⟩
      simp only [semantics, apply, hc]
    | change c =>
      rw [hc] at done
      obtain ⟨haccess, hworking, happlied, hcommitted⟩ := change_done done
      refine ⟨hworking, ?_, fun inside => Prod.ext haccess (hcommitted inside)⟩
      simp only [semantics, apply, hc, happlied, haccess]
      rfl
    | refused begun fault =>
      rw [hc] at done
      cases done
    | begin | commit | rollback =>
      change role st = .plain at hrole
      simp only [role, hc] at hrole
      cases hrole
  failed := by
    intro db u st e _ failed
    cases run_failed failed
    exact ⟨rfl, id⟩
  inapplicable := by
    intro db u st e hrole failed
    change db.run st.source st.command = _ at failed
    change apply st (db.access, db.current) = none
    cases hc : st.command with
    | nothing =>
      rw [hc] at failed
      cases failed
    | change c =>
      rw [hc] at failed
      simp only [apply, hc, (change_failed failed).2]
      rfl
    | begin | commit | rollback | refused => simp only [apply, hc]

end ScriptReplay.Database

import ScriptReplay.Session.Basic
import ScriptReplay.Text.Pieces

namespace ScriptReplay

inductive Event where
  | begin
  | execute (sql : Text)
  | commit
  | rollback
  deriving DecidableEq, Repr

def Event.text : Event → Text
  | begin => ['B', 'E', 'G', 'I', 'N']
  | execute sql => ['E', 'X', 'E', 'C', ' '] ++ sql
  | commit => ['C', 'O', 'M', 'M', 'I', 'T']
  | rollback => ['R', 'O', 'L', 'L', 'B', 'A', 'C', 'K']

structure Refusals where
  markers : List Text
  begins : List Nat
  commits : List Nat
  rollbacks : List Nat
  deriving DecidableEq, Repr

def Refusals.rejects (r : Refusals) (sql : Text) : Bool :=
  r.markers.any fun marker => marker.isEmpty || Text.contains marker sql

structure Rehearsal where
  refusals : Refusals
  events : List Event
  committed : List Text
  pending : List Text
  deriving DecidableEq, Repr

namespace Rehearsal

def fresh (refusals : Refusals) : Rehearsal where
  refusals := refusals
  events := []
  committed := []
  pending := []

def record (s : Rehearsal) (e : Event) : Rehearsal :=
  { s with events := s.events ++ [e] }

def refused (kind : String) (call : Nat) : SessionError :=
  .misuse s!"{kind} refused #{call}"

def rejected (sql : Text) : SessionError :=
  .misuse ("rejected: " ++ String.ofList sql)

def callNumber (s : Rehearsal) (e : Event) : Nat :=
  s.events.count e + 1

def begin (s : Rehearsal) : Rehearsal × Answer :=
  let call := s.callNumber .begin
  let s := s.record .begin
  if call ∈ s.refusals.begins then (s, .error (refused "begin" call)) else (s, .ok ())

def execute (s : Rehearsal) (sql : Text) : Rehearsal × Answer :=
  let s := s.record (.execute sql)
  if s.refusals.rejects sql then (s, .error (rejected sql))
  else ({ s with pending := s.pending ++ [sql] }, .ok ())

def commit (s : Rehearsal) : Rehearsal × Answer :=
  let call := s.callNumber .commit
  let s := s.record .commit
  if call ∈ s.refusals.commits then (s, .error (refused "commit" call))
  else ({ s with committed := s.committed ++ s.pending, pending := [] }, .ok ())

def rollback (s : Rehearsal) : Rehearsal × Answer :=
  let call := s.callNumber .rollback
  let s := s.record .rollback
  if call ∈ s.refusals.rollbacks then (s, .error (refused "rollback" call))
  else ({ s with pending := [] }, .ok ())

instance : Session Rehearsal where
  begin := begin
  execute := execute
  commit := commit
  rollback := rollback
  describe _ := "recording"
  inTree _ t := t

end Rehearsal

end ScriptReplay

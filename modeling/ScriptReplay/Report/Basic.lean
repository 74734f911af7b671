namespace ScriptReplay

inductive Outcome where
  | allCommitted (statements : Nat)
  | rolledBack (error : String)
  | parseFailed (error : String)
  deriving DecidableEq, Repr

namespace Outcome

def isSuccess : Outcome → Bool
  | allCommitted _ => true
  | _ => false

def error? : Outcome → Option String
  | allCommitted _ => none
  | rolledBack error => some error
  | parseFailed error => some error

end Outcome

structure FileReport where
  file : String
  outcome : Outcome
  micros : Nat
  deriving DecidableEq, Repr

inductive Status where
  | executed
  | missingDirectory
  | noScripts
  | unreadable
  deriving DecidableEq, Repr

structure Summary where
  category : String
  status : Status
  files : List FileReport
  succeeded : Nat
  failed : Nat
  error : Option String
  deriving DecidableEq, Repr

namespace Summary

def skipped (category : String) (status : Status) : Summary where
  category := category
  status := status
  files := []
  succeeded := 0
  failed := 0
  error := none

def started (category : String) : Summary :=
  skipped category .executed

def unlisted (category error : String) : Summary :=
  { skipped category .unreadable with error := some error }

def record (s : Summary) (r : FileReport) : Summary :=
  if r.outcome.isSuccess then
    { s with files := s.files ++ [r], succeeded := s.succeeded + 1 }
  else
    { s with files := s.files ++ [r], failed := s.failed + 1 }

def recordAll (s : Summary) (rs : List FileReport) : Summary :=
  rs.foldl record s

def failures (s : Summary) : List (String × String) :=
  s.files.filterMap fun r => r.outcome.error?.map fun e => (r.file, e)

def message (s : Summary) : String :=
  match s.status with
  | .missingDirectory => s!"Directory {s.category} does not exist, skipping"
  | .noScripts => s!"No script files in {s.category}"
  | .unreadable =>
    let reason := s.error.getD "unknown error"
    s!"Cannot list {s.category}: {reason}, skipping"
  | .executed => s!"Summary {s.category}: {s.succeeded} succeeded, {s.failed} failed"

end Summary

structure Report where
  target : String
  dryRun : Bool
  started : Int
  finished : Int
  categories : List Summary
  deriving DecidableEq, Repr

namespace Report

def succeeded (r : Report) : Nat :=
  r.categories.foldr (fun s n => s.succeeded + n) 0

def failed (r : Report) : Nat :=
  r.categories.foldr (fun s n => s.failed + n) 0

def isSuccess (r : Report) : Bool :=
  r.failed == 0 && r.categories.all fun s => s.status != .unreadable

def lengthMillis (r : Report) : Int :=
  (r.finished - r.started).tdiv 1000000

end Report

end ScriptReplay

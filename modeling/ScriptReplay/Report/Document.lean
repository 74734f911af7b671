import ScriptReplay.Json.Basic
import ScriptReplay.Report.Basic
import ScriptReplay.Report.Instant

namespace ScriptReplay

def Outcome.members : Outcome → List (String × Json)
  | allCommitted statements =>
    [("outcome", .ofString "all_committed"), ("statements", .ofNat statements)]
  | rolledBack error => [("outcome", .ofString "rolled_back"), ("error", .ofString error)]
  | parseFailed error => [("outcome", .ofString "parse_failed"), ("error", .ofString error)]

def FileReport.toJson (r : FileReport) : Json :=
  .ofMembers ([("file_name", .ofString r.file)] ++ r.outcome.members ++
    [("elapsed", .ofNat (r.micros / 1000))])

def Status.name : Status → String
  | executed => "executed"
  | missingDirectory => "missing_directory"
  | noScripts => "no_scripts"
  | unreadable => "unreadable"

def Summary.toJson (s : Summary) : Json :=
  let error := match s.error with
    | none => []
    | some error => [("error", .ofString error)]
  .ofMembers ([
    ("category", .ofString s.category),
    ("status", .ofString s.status.name),
    ("files", .list (s.files.map FileReport.toJson)),
    ("success_count", .ofNat s.succeeded),
    ("error_count", .ofNat s.failed)] ++ error)

namespace Report

def toJson (r : Report) : Json :=
  .ofMembers [
    ("target", .ofString r.target),
    ("dry_run", .bool r.dryRun),
    ("started_at", .ofText (Instant.text r.started)),
    ("finished_at", .ofText (Instant.text r.finished)),
    ("categories", .list (r.categories.map Summary.toJson))]

def summaryLines (s : Summary) : List String :=
  s.message ::
    if s.status = .executed then s.failures.map fun (file, error) => s!"  {file}: ERROR: {error}"
    else []

def lines (r : Report) : List String :=
  [s!"Target: {r.target}"] ++ r.categories.flatMap summaryLines ++
    [s!"Total: {r.succeeded} succeeded, {r.failed} failed ({r.lengthMillis} ms)"]

end Report

end ScriptReplay

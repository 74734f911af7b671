import ScriptReplay.Error
import ScriptReplay.Script.Directive

namespace ScriptReplay

inductive Level where
  | error
  | warn
  | info
  | debug
  | trace
  deriving DecidableEq, Repr

namespace Level

def name : Level → String
  | error => "ERROR"
  | warn => "WARN"
  | info => "INFO"
  | debug => "DEBUG"
  | trace => "TRACE"

def rank : Level → Nat
  | error => 1
  | warn => 2
  | info => 3
  | debug => 4
  | trace => 5

end Level

inductive Area where
  | app
  | settings
  | connection
  | session
  | parsing
  | execution
  | listing
  deriving DecidableEq, Repr

def Area.path : Area → String
  | app => "dbmeta::app"
  | settings => "dbmeta::utils::config"
  | connection => "dbmeta::db::connection"
  | session => "dbmeta::db::session"
  | parsing => "dbmeta::db::query::script"
  | execution => "dbmeta::db::query::executor"
  | listing => "dbmeta::db::query::runner"

inductive FieldValue where
  | plain (text : Text)
  | quoted (text : Text)
  | number (n : Nat)
  deriving DecidableEq, Repr

inductive Note where
  | directive (effect : Directive.Effect)
  | noStatements
  | executing (index : Nat)
  | rollbackFailed (cause : SessionError)
  | abandonedRollbackFailed (cause : SessionError)
  | fileStarted (file : String)
  | fileUnreadable (file : String) (cause : FileError)
  | fileCommitted (file : String) (statements : Nat)
  | fileFailed (file : String) (cause : ReplayError)
  | fileUnparsed (file : String) (cause : ReplayError)
  | categoryStarted (category : String)
  | summary (level : Level) (message : String)
  | connected (target : String)
  | settingFailed (statement : String) (cause : SessionError)
  | implicitCommits
  | configLoaded (path : String)
  | configIgnored (path : String) (cause : ReplayError)
  deriving DecidableEq, Repr

abbrev Journal := List Note

namespace Note

def level : Note → Level
  | directive _ | noStatements | executing _ | configLoaded _ => .debug
  | fileStarted _ | fileCommitted .. | categoryStarted _ | connected _ => .info
  | summary level _ => level
  | _ => .warn

def area : Note → Area
  | directive _ => .parsing
  | noStatements | executing _ | rollbackFailed _ | fileStarted _ | fileUnreadable ..
  | fileCommitted .. | fileFailed .. => .execution
  | abandonedRollbackFailed _ => .session
  | fileUnparsed .. | categoryStarted _ | implicitCommits => .app
  | summary .. => .listing
  | connected _ | settingFailed .. => .connection
  | configLoaded _ | configIgnored .. => .settings

def message : Note → String
  | directive (.changed ..) => "terminator changed"
  | directive (.ignored _) => "ignoring malformed SET TERM directive"
  | noStatements => "script has no statements"
  | executing _ => "executing statement"
  | rollbackFailed cause => "Rollback failed after statement error: " ++ cause.message
  | abandonedRollbackFailed cause => "Rollback of abandoned transaction failed: " ++ cause.message
  | fileStarted file => "Executing " ++ file
  | fileUnreadable file cause => s!"{file}: cannot read: {cause.message}"
  | fileCommitted file statements => s!"{file}: OK ({statements} statements)"
  | fileFailed file cause => s!"{file}: FAILED: {cause.message}"
  | fileUnparsed file cause => s!"{file}: {cause.message}"
  | categoryStarted category => "Running category " ++ category
  | summary _ message => message
  | connected target => "Connected to " ++ target
  | settingFailed statement cause =>
    s!"Failed to apply session setting `{statement}`: {cause.message}"
  | implicitCommits =>
    "Oracle commits DDL implicitly; a failing script keeps the DDL that ran before it"
  | configLoaded path => "Loaded config from " ++ path
  | configIgnored path cause => s!"Ignoring config at {path}: {cause.message}"

def fields : Note → List (String × FieldValue)
  | directive (.changed old new) => [("from", .plain old), ("to", .plain new)]
  | directive (.ignored line) => [("line", .quoted line)]
  | executing index => [("index", .number index)]
  | _ => []

end Note

end ScriptReplay

import ScriptReplay.Script.Preview
import ScriptReplay.Session.ResultCode

namespace ScriptReplay

inductive FileError where
  | notFound
  | alreadyExists
  | notDirectory
  | isDirectory
  | denied
  | nameTooLong
  | linkLoop
  | nulByte
  | notUtf8
  | other (message : String)
  deriving DecidableEq, Repr

def FileError.message : FileError → String
  | notFound => "No such file or directory (os error 2)"
  | alreadyExists => "File exists (os error 17)"
  | notDirectory => "Not a directory (os error 20)"
  | isDirectory => "Is a directory (os error 21)"
  | denied => "Permission denied (os error 13)"
  | nameTooLong => "File name too long (os error 36)"
  | linkLoop => "Too many levels of symbolic links (os error 40)"
  | nulByte => "file name contained an unexpected NUL byte"
  | notUtf8 => "stream did not contain valid UTF-8"
  | other message => message

inductive SessionError where
  | misuse (message : String)
  | sqlite (code : Int) (message : Option String)
  | sqlitePathWithNul (position : Nat)
  | oracle (reason : String)
  deriving DecidableEq, Repr

namespace SessionError

def causes : SessionError → List String
  | misuse _ => []
  | sqlite code message => [message.getD (ResultCode.shown code), ResultCode.shown code]
  | sqlitePathWithNul position =>
    let text := s!"nul byte found in provided data at position: {position}"
    [text, text]
  | oracle reason => [reason]

def message (e : SessionError) : String :=
  match e with
  | misuse message => "Session error: " ++ message
  | oracle reason => "Oracle error: " ++ reason
  | e => "SQLite error: " ++ e.causes.headD ""

end SessionError

inductive ReplayError where
  | config (message : String)
  | malformedConfig (path : String)
  | connect (target : String) (cause : SessionError)
  | statement (index : Nat) (shown : String) (cause : SessionError)
  | transaction (cause : SessionError)
  | file (cause : FileError)
  deriving DecidableEq, Repr

namespace ReplayError

def ofStatement (index : Nat) (sql : Text) (cause : SessionError) : ReplayError :=
  statement index (String.ofList (preview sql)) cause

def message : ReplayError → String
  | config message => "Configuration error: " ++ message
  | malformedConfig path => s!"Configuration error: {path}: malformed document"
  | connect target cause => s!"Connection to {target} failed: {cause.message}"
  | statement index shown cause =>
    s!"Statement {index} failed: {cause.message}\n  Statement: {shown}"
  | transaction cause => "Transaction error: " ++ cause.message
  | file cause => "IO error: " ++ cause.message

def causes : ReplayError → List String
  | config _ | malformedConfig _ => []
  | connect _ cause => cause.message :: cause.causes
  | statement _ _ cause => cause.message :: cause.causes
  | transaction cause => cause.message :: cause.causes
  | file cause => [cause.message]

def numbered (depth : Nat) : List String → String
  | [] => ""
  | text :: rest => s!"\nCaused by:\n  {depth}: {text}" ++ numbered (depth + 1) rest

def detailed (e : ReplayError) : String :=
  s!"Error: {e.message}\n" ++ numbered 1 e.causes

end ReplayError

end ScriptReplay

import ScriptReplay.Config.Basic

namespace ScriptReplay.CommandLine

inductive Place where
  | program
  | run
  | init
  | parse
  deriving DecidableEq, Repr

inductive Opt where
  | help
  | version
  | config
  | logFormat
  | verbosity
  | scriptsDir
  | category
  | extension
  | driver
  | database
  | host
  | port
  | serviceName
  | user
  | dryRun
  | outputJson
  | output
  | force
  | file
  deriving DecidableEq, Repr

def commandNamed? (name : String) : Option Place :=
  match name with
  | "run" => some .run
  | "init" => some .init
  | "parse" => some .parse
  | _ => none

def shared : List (String × Opt) :=
  [("help", .help), ("config", .config), ("log-format", .logFormat), ("verbosity", .verbosity)]

def longNames : Place → List (String × Opt)
  | .program => ("version", .version) :: shared
  | .run =>
    [("scripts-dir", .scriptsDir), ("category", .category), ("extension", .extension),
      ("driver", .driver), ("database", .database), ("host", .host), ("port", .port),
      ("service-name", .serviceName), ("user", .user), ("dry-run", .dryRun),
      ("output-json", .outputJson)] ++ shared
  | .init => [("output", .output), ("force", .force)] ++ shared
  | .parse => ("output-json", .outputJson) :: shared

def shortNames : Place → List (Char × Opt)
  | .program => [('h', .help), ('V', .version), ('c', .config)]
  | .run => [('h', .help), ('c', .config), ('u', .user)]
  | .init => [('h', .help), ('c', .config), ('o', .output), ('f', .force)]
  | .parse => [('h', .help), ('c', .config)]

namespace Opt

def takesValue : Opt → Bool
  | help | version | dryRun | outputJson | force => false
  | _ => true

def isRepeatable (o : Opt) : Bool :=
  o == category

end Opt

inductive Problem where
  | helpWanted
  | versionWanted
  | noArguments
  | noCommand
  | unknownCommand
  | unknownArgument
  | missingArgument
  | unfitValue
  | unfitNumber
  | repeatedOption
  | needlessValue
  deriving DecidableEq, Repr

def Problem.exitStatus : Problem → Nat
  | helpWanted | versionWanted => 0
  | _ => 2

def port? (t : Text) : Option UInt16 :=
  let (negative, digits) := match t with
    | '-' :: r => (true, r)
    | '+' :: r => (false, r)
    | r => (false, r)
  if digits = [] ∨ !digits.all Char.isDigit then none
  else
    let n := digits.foldl (fun n c => 10 * n + (c.toNat - 48)) 0
    if n < 65536 ∧ (!negative ∨ n = 0) then some (.ofNat n) else none

def driver? (t : Text) : Option Driver :=
  if t = Driver.oracle.name.toList then some .oracle
  else if t = Driver.sqlite.name.toList then some .sqlite
  else none

def checkValue (o : Opt) (value : Text) : Except Problem Unit :=
  match o with
  | .config | .scriptsDir | .database | .output | .file =>
    if value = [] then .error .unfitValue else .ok ()
  | .driver => if (driver? value).isSome then .ok () else .error .unfitValue
  | .port => if (port? value).isSome then .ok () else .error .unfitNumber
  | _ => .ok ()

end ScriptReplay.CommandLine

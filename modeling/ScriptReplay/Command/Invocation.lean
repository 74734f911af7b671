import ScriptReplay.Command.Line

namespace ScriptReplay.CommandLine

structure Overrides where
  scriptsDir : Option String := none
  categories : List String := []
  extension : Option String := none
  driver : Option Driver := none
  database : Option String := none
  host : Option String := none
  port : Option UInt16 := none
  service : Option String := none
  username : Option String := none
  deriving DecidableEq, Repr

def Overrides.apply (o : Overrides) (c : Config) : Config :=
  let connection := c.connection
  { connection := { connection with
      driver := o.driver.getD connection.driver
      database := o.database <|> connection.database
      host := o.host.getD connection.host
      port := o.port.getD connection.port
      service := o.service.getD connection.service
      username := o.username.getD connection.username }
    scriptsDir := o.scriptsDir <|> c.scriptsDir
    categories := if o.categories = [] then c.categories else o.categories
    extension := o.extension.getD c.extension }

inductive Task where
  | run (overrides : Overrides) (dryRun asJson : Bool)
  | init (output : Option String) (force : Bool)
  | parse (file : String) (asJson : Bool)
  deriving DecidableEq, Repr

structure Invocation where
  config : Option String
  logFormat : String
  verbosity : String
  task : Task
  deriving DecidableEq, Repr

namespace Settled

def value? (s : Settled) (o : Opt) : Option String :=
  (s.lookup o).map String.ofList

def isSet (s : Settled) (o : Opt) : Bool :=
  (s.lookup o).isSome

def values (s : Settled) (o : Opt) : List String :=
  s.filterMap fun p => if p.1 = o then some (String.ofList p.2) else none

def overrides (s : Settled) : Overrides where
  scriptsDir := value? s .scriptsDir
  categories := values s .category
  extension := value? s .extension
  driver := (s.lookup .driver).bind driver?
  database := value? s .database
  host := value? s .host
  port := (s.lookup .port).bind port?
  service := value? s .serviceName
  username := value? s .user

def task (s : Settled) : Place → Task
  | .init => .init (value? s .output) (isSet s .force)
  | .parse => .parse ((value? s .file).getD "") (isSet s .outputJson)
  | _ => .run (overrides s) (isSet s .dryRun) (isSet s .outputJson)

end Settled

def read (arguments : List String) : Except Problem Invocation :=
  match scanProgram {} (arguments.map String.toList) with
  | .error e => .error e
  | .ok (program, place, own) =>
    let shared (o : Opt) := Settled.value? own o <|> Settled.value? program o
    .ok {
      config := shared .config
      logFormat := (shared .logFormat).getD "text"
      verbosity := (shared .verbosity).getD "info"
      task := Settled.task own place }

end ScriptReplay.CommandLine

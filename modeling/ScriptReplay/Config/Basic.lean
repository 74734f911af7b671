import ScriptReplay.Text.Blank

namespace ScriptReplay

inductive Driver where
  | oracle
  | sqlite
  deriving DecidableEq, Repr

def Driver.name : Driver → String
  | oracle => "oracle"
  | sqlite => "sqlite"

def Driver.rollsBackDefinitions : Driver → Bool
  | oracle => false
  | sqlite => true

structure Connection where
  name : String := "default"
  driver : Driver := .oracle
  username : String := ""
  password : String := ""
  host : String := "localhost"
  port : UInt16 := 1521
  service : String := "ORCL"
  database : Option String := none
  sessionInit : List String := []
  deriving DecidableEq, Repr

namespace Connection

def address (c : Connection) : String :=
  s!"//{c.host}:{c.port.toNat}/{c.service}"

def describe (c : Connection) : String :=
  match c.driver, c.database with
  | .oracle, _ => s!"{c.name} ({c.username}@{c.host}:{c.port.toNat}/{c.service})"
  | .sqlite, some path => s!"{c.name} (sqlite:{path})"
  | .sqlite, none => s!"{c.name} (sqlite::memory:)"

def withoutPassword (c : Connection) : Connection :=
  { c with password := "" }

end Connection

structure Config where
  connection : Connection := {}
  scriptsDir : Option String := none
  categories : List String := ["domains", "tables", "procedures"]
  extension : String := "sql"
  deriving DecidableEq, Repr

namespace Config

def standard : Config := {}

def withPassword (c : Config) (given : Option String) : Config :=
  if c.connection.password = "" then
    { c with connection := { c.connection with password := given.getD "" } }
  else c

end Config

end ScriptReplay

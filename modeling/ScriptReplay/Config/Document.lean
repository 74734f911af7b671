import ScriptReplay.Config.Basic
import ScriptReplay.Json.Reader

namespace ScriptReplay

open Json

abbrev Fields := List (String × Json)

namespace Fields

def ofMembers (known : List String) : List (Text × Json) → Option Fields
  | [] => some []
  | (written, v) :: ms =>
    match unescape written, ofMembers known ms with
    | some name, some fields =>
      let name := String.ofList name
      if name ∈ known then
        if (fields.lookup name).isSome then none else some ((name, v) :: fields)
      else some fields
    | _, _ => none

def ofJson (known : List String) : Json → Option Fields
  | .object members => ofMembers known members
  | .list items => if items.length ≤ known.length then some (known.zip items) else none
  | _ => none

def get {α : Type} (fields : Fields) (name : String) (read : Json → Option α) (standard : α) :
    Option α :=
  match fields.lookup name with
  | none => some standard
  | some v => read v

end Fields

namespace Json

def string? : Json → Option String
  | .string written => (unescape written).map String.ofList
  | _ => none

def optionalString? : Json → Option (Option String)
  | .null => some none
  | v => (string? v).map some

def strings? : Json → Option (List String)
  | .list items => items.mapM string?
  | _ => none

def nat? : Json → Option Nat
  | .number written =>
    if written.all Char.isDigit then
      some (written.foldl (fun n c => 10 * n + (c.toNat - 48)) 0)
    else none
  | _ => none

def port? (v : Json) : Option UInt16 :=
  match nat? v with
  | some n => if n < 65536 then some (.ofNat n) else none
  | none => none

def driverNamed? (name : String) : Option Driver :=
  if name = Driver.oracle.name then some .oracle
  else if name = Driver.sqlite.name then some .sqlite
  else none

def driver? : Json → Option Driver
  | .object [(written, .null)] => (unescape written).bind fun t => driverNamed? (String.ofList t)
  | v => (string? v).bind driverNamed?

def ofOptionalString : Option String → Json
  | none => .null
  | some s => ofString s

def ofStrings (ss : List String) : Json :=
  .list (ss.map ofString)

end Json

namespace Connection

def fieldNames : List String :=
  ["name", "driver", "username", "password", "host", "port", "service_name", "database",
    "session_init"]

def ofJson (v : Json) : Option Connection := do
  let fields ← Fields.ofJson fieldNames v
  let standard : Connection := {}
  let name ← fields.get "name" string? standard.name
  let driver ← fields.get "driver" driver? standard.driver
  let username ← fields.get "username" string? standard.username
  let password ← fields.get "password" string? standard.password
  let host ← fields.get "host" string? standard.host
  let port ← fields.get "port" port? standard.port
  let service ← fields.get "service_name" string? standard.service
  let database ← fields.get "database" optionalString? standard.database
  let sessionInit ← fields.get "session_init" strings? standard.sessionInit
  return { name, driver, username, password, host, port, service, database, sessionInit }

def toJson (c : Connection) : Json :=
  .ofMembers [
    ("name", .ofString c.name),
    ("driver", .ofString c.driver.name),
    ("username", .ofString c.username),
    ("host", .ofString c.host),
    ("port", .ofNat c.port.toNat),
    ("service_name", .ofString c.service),
    ("database", .ofOptionalString c.database),
    ("session_init", .ofStrings c.sessionInit)]

end Connection

namespace Config

def fieldNames : List String :=
  ["connection", "scripts_dir", "categories", "extension"]

def ofJson (v : Json) : Option Config := do
  let fields ← Fields.ofJson fieldNames v
  let connection ← fields.get "connection" Connection.ofJson standard.connection
  let scriptsDir ← fields.get "scripts_dir" optionalString? standard.scriptsDir
  let categories ← fields.get "categories" strings? standard.categories
  let extension ← fields.get "extension" string? standard.extension
  return { connection, scriptsDir, categories, extension }

def toJson (c : Config) : Json :=
  .ofMembers [
    ("connection", c.connection.toJson),
    ("scripts_dir", .ofOptionalString c.scriptsDir),
    ("categories", .ofStrings c.categories),
    ("extension", .ofString c.extension)]

def text (c : Config) : Text :=
  c.toJson.text

def ofText (t : Text) : Option Config :=
  (Json.read t).bind ofJson

end Config

end ScriptReplay

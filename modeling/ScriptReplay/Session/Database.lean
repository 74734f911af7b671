import ScriptReplay.Session.Engine
import ScriptReplay.Session.Sql

/-!
An engine that stands in for an embedded database, for a small part of SQL. Its content is the list
of its tables with their row counts. While a transaction is open, changes go to the transaction's own
copy, which a commit puts in place of the committed content; without one each change is committed at
once. A database in a file is written there with every commit that changes it.
-/

namespace ScriptReplay

open Sql

def sqlError (message : String) : SessionError :=
  .sqlite 1 (some message)

def sqlErrorAt (message : String) (source : Text) (position : Nat) : SessionError :=
  sqlError s!"{message} in {String.ofList source} at offset {position}"

def noSuchTable (name : Text) : SessionError :=
  sqlError ("no such table: " ++ String.ofList name)

def isInternal (name : Text) : Bool :=
  "SQLITE_".toList.isPrefixOf (Text.caseless name)

def catalogue? (name : Text) : Option String :=
  [("SQLITE_MASTER", "sqlite_master"), ("SQLITE_SCHEMA", "sqlite_master"),
    ("SQLITE_TEMP_MASTER", "sqlite_temp_master"),
    ("SQLITE_TEMP_SCHEMA", "sqlite_temp_master")].lookup (String.ofList (Text.caseless name))

def Sql.Fault.error (source : Text) (fault : Fault) : SessionError :=
  match fault.position? with
  | some position => sqlErrorAt fault.message source position
  | none => sqlError fault.message

def Sql.ValueFault.error (source : Text) : ValueFault → SessionError
  | tooBig written position =>
    sqlErrorAt ("hex literal too big: " ++ String.ofList written) source position
  | noColumn name position =>
    sqlErrorAt ("no such column: " ++ String.ofList name) source position

/-- What a database can be used for: all; all but changes, as it is only read or as the journal that
a change needs cannot be written; or no table at all, for the reason that is told. -/
inductive Access where
  | full
  | readOnly
  | noJournal
  | unreadable (reason : SessionError)
  deriving DecidableEq, Repr

def rowNumberNames : List String :=
  ["ROWID", "OID", "_ROWID_"]

def isColumn (table : Table) (name : Text) : Bool :=
  (table.columns ++ rowNumberNames.map String.toList).any fun column =>
    Text.sameCaseless column name

def isKept (table : Table) : Bool :=
  isInternal table.name &&
    !(["SQLITE_STAT", "SQLITE_PARAMETERS"].any fun start =>
      start.toList.isPrefixOf (Text.caseless table.name))

def isIdle (change : Change) (tables : Tables) : Bool :=
  match change with
  | .createTable table _ => table.ifMissing && tables.has table.name
  | .insertRow _ _ => false
  | .dropTable name ifPresent => ifPresent && !tables.has name

def rowFault? (source name : Text) (table : Table) : Row → Option SessionError
  | .usual => none
  | .value column fault =>
    let shown := String.ofList name
    let count := table.columns.length
    match column.filter (!isColumn table ·), fault with
    | some column, _ =>
      some (sqlError s!"table {shown} has no column named {String.ofList column}")
    | none, some (.noColumn column position) =>
      some (ValueFault.error source (.noColumn column position))
    | none, fault =>
      if column = none ∧ count ≠ 1 then
        some (sqlError s!"table {shown} has {count} columns but 1 values were supplied")
      else fault.map (·.error source)

def createTable (source : Text) (new : NewTable) (column : Text) (tables : Tables) :
    Except SessionError Tables :=
  match tables.find? new.name with
  | some table =>
    let kind := if table.isView then "view" else "table"
    .error (sqlErrorAt s!"{kind} {String.ofList new.written} already exists" source new.position)
  | none =>
    if tables.hasIndex new.name then
      .error (sqlError s!"there is already an index named {String.ofList new.name}")
    else .ok (tables.create new.name [column])

def insertRow (source name : Text) (row : Row) (tables : Tables) : Except SessionError Tables :=
  match tables.find? name with
  | none => .error (noSuchTable name)
  | some table =>
    if table.isView then
      .error (sqlError s!"cannot modify {String.ofList table.name} because it is a view")
    else
      match rowFault? source name table row with
      | some e => .error e
      | none => .ok (tables.insert name)

def dropTable (name : Text) (tables : Tables) : Except SessionError Tables :=
  match tables.find? name with
  | none => .error (noSuchTable name)
  | some table =>
    if isKept table then .error (sqlError s!"table {String.ofList table.name} may not be dropped")
    else if table.isView then
      .error (sqlError s!"use DROP VIEW to delete view {String.ofList table.name}")
    else .ok (tables.drop name)

def applyChange (source : Text) (change : Change) (tables : Tables) : Except SessionError Tables :=
  match change with
  | .createTable table column =>
    if isIdle change tables then .ok tables else createTable source table column tables
  | .insertRow name row =>
    match catalogue? name with
    | some catalogue => .error (sqlError s!"table {catalogue} may not be modified")
    | none => insertRow source name row tables
  | .dropTable name _ =>
    match catalogue? name with
    | some catalogue => .error (sqlError s!"table {catalogue} may not be dropped")
    | none => if isIdle change tables then .ok tables else dropTable name tables

def nameFault? (change : Change) : Option SessionError :=
  match change with
  | .createTable table _ =>
    if isInternal table.name then
      some (sqlError ("object name reserved for internal use: " ++ String.ofList table.name))
    else none
  | _ => none

def Access.prepare (access : Access) (source : Text) (change : Change) (tables : Tables) :
    Except SessionError Tables :=
  match nameFault? change with
  | some e => .error e
  | none =>
    match access with
    | unreadable reason => .error reason
    | _ => applyChange source change tables

def Access.apply (access : Access) (source : Text) (change : Change) (tables : Tables) :
    Except SessionError Tables :=
  match access.prepare source change tables with
  | .error e => .error e
  | .ok after =>
    if isIdle change tables then .ok after
    else
      match access with
      | full | unreadable _ => .ok after
      | readOnly => .error (.sqlite 8 (some "attempt to write a readonly database"))
      | noJournal => .error (.sqlite 14 (some "unable to open database file"))

structure Work where
  tables : Tables
  isChanged : Bool
  deriving DecidableEq, Repr

/-- A connection to a database. One in a file knows where it stands and what the file holds. -/
structure Database where
  target : String
  access : Access
  file : Option (Location × Content)
  committed : Tables
  working : Option Work
  deriving DecidableEq, Repr

namespace Database

def fresh (target : String) : Database where
  target := target
  access := .full
  file := none
  committed := .empty
  working := none

def settle (db : Database) (work : Work) : Database :=
  { db with
    file := if work.isChanged then db.file.map fun f => (f.1, .database work.tables) else db.file
    committed := work.tables
    working := none }

def current (db : Database) : Tables :=
  match db.working with
  | some work => work.tables
  | none => db.committed

def change (db : Database) (source : Text) (c : Change) : Database × Answer :=
  let isChanged := !isIdle c db.current
  match db.access.apply source c db.current, db.working with
  | .error e, _ => (db, .error e)
  | .ok tables, some work =>
    ({ db with working := some ⟨tables, work.isChanged || isChanged⟩ }, .ok ())
  | .ok tables, none => (db.settle ⟨tables, isChanged⟩, .ok ())

def refuse (db : Database) (source : Text) (begun : Option NewTable) (fault : Fault) :
    SessionError :=
  match begun.map fun table => db.access.prepare source (.createTable table []) db.current with
  | some (.error e) => e
  | _ => fault.error source

def run (db : Database) (source : Text) : Command → Database × Answer
  | .nothing => (db, .ok ())
  | .begin =>
    match db.working with
    | some _ => (db, .error (sqlError "cannot start a transaction within a transaction"))
    | none => ({ db with working := some ⟨db.committed, false⟩ }, .ok ())
  | .commit =>
    match db.working with
    | some work => (db.settle work, .ok ())
    | none => (db, .error (sqlError "cannot commit - no transaction is active"))
  | .rollback =>
    match db.working with
    | some _ => ({ db with working := none }, .ok ())
    | none => (db, .error (sqlError "cannot rollback - no transaction is active"))
  | .change c => db.change source c
  | .refused begun fault => (db, .error (db.refuse source begun fault))

def inTree (db : Database) (t : Tree) : Tree :=
  match db.file with
  | none => t
  | some (location, content) => t.put location (.file content)

instance : Engine Database where
  isAutocommit db := db.working.isNone
  executeBatch db sql :=
    Engine.runEach (fun db st => db.run st.source st.command) db (statements sql)
  describe db := db.target
  inTree := inTree

end Database

end ScriptReplay

import ScriptReplay.Session.Address
import ScriptReplay.Session.Catalogue
import ScriptReplay.Session.Database
import ScriptReplay.Tree.Locate

/-!
Opening a database by its name. One in a file is found at the location that its path spells; where
nothing stands, an empty file is made. The journal of a change and the log of changes are files
beside it with longer names, so a database whose own name is nearly as long as names can be cannot
be changed, or cannot even be read.
-/

namespace ScriptReplay.Database

def journalEnding : Bytes :=
  Path.ofString "-journal"

def logEnding : Bytes :=
  Path.ofString "-wal"

def sharedEnding : Bytes :=
  Path.ofString "-shm"

def neighbourEndings : List Bytes :=
  [journalEnding, logEnding, sharedEnding]

def beside (l : Location) (ending : Bytes) : Location :=
  l.dropLast ++ [l.getLast?.getD [] ++ ending]

def canStand (l : Location) (ending : Bytes) : Bool :=
  ((l.getLast?.getD []) ++ ending).length ≤ Tree.longestName

def longestWay : Nat := 511

def longestLocation : Nat := 504

def unopenable (name : String) : SessionError :=
  .sqlite 14 (some ("unable to open database file: " ++ name))

def unreachable : SessionError :=
  .sqlite 10 (some "disk I/O error")

def canLog (a : Address) (c : Address.Choice) (l : Location) : Bool :=
  canStand l logEnding && !a.isUnlocked &&
    !(["unix-none", "unix-dotfile"].any fun kind => Path.ofString kind == c.files)

def bytesAt (t : Tree) (l : Location) : Bytes :=
  match t.at? l with
  | some (.file (.bytes b)) => b
  | _ => []

def isHot (journal : Bytes) : Bool :=
  journal.head?.any (· ≠ 0)

def neighbourFault? (t : Tree) (a : Address) (c : Address.Choice) (l : Location)
    (isEmpty : Bool) : Option SessionError :=
  if !isEmpty ∧ t.at? (beside l journalEnding) = some .directory then
    some (.sqlite 266 (some "disk I/O error"))
  else if !isEmpty ∧ c.mode = .readOnly ∧ isHot (bytesAt t (beside l journalEnding)) then
    some (.sqlite 776 (some "attempt to write a readonly database"))
  else if t.at? (beside l logEnding) = some .directory then
    some (if isEmpty then .sqlite 2570 (some "disk I/O error") else Image.unopenable)
  else if !isEmpty ∧ bytesAt t (beside l logEnding) ≠ [] ∧ !canLog a c l then some Image.unopenable
  else none

def readCatalogue (t : Tree) (a : Address) (c : Address.Choice) (l : Location)
    (content : Content) : Except SessionError Catalogue :=
  if a.isImmutable then content.catalogue true []
  else
    match neighbourFault? t a c l content.isEmptyDatabase with
    | some e => .error e
    | none => content.catalogue (canLog a c l) (bytesAt t (beside l logEnding))

def isOnlyRead (t : Tree) (a : Address) (c : Address.Choice) (l : Location)
    (catalogue : Catalogue) : Bool :=
  a.isReadOnly c || catalogue.isReadOnly ||
    catalogue.isLogged && c.files ≠ Path.ofString "unix-excl" &&
      t.at? (beside l sharedEnding) = some .directory

def hasJournal (t : Tree) (l : Location) (isLogged : Bool) : Bool :=
  isLogged || bytesAt t (beside l logEnding) ≠ [] ||
    canStand l journalEnding && t.at? (beside l journalEnding) ≠ some .directory

def ofFile (t : Tree) (target : String) (a : Address) (c : Address.Choice) (l : Location)
    (content : Content) : Database :=
  let db : Database := { fresh target with file := some (l, content) }
  match readCatalogue t a c l content with
  | .error e => { db with access := .unreadable e }
  | .ok catalogue =>
    { db with
      access :=
        if isOnlyRead t a c l catalogue then .readOnly
        else if hasJournal t l catalogue.isLogged then .full
        else .noJournal
      committed := catalogue.tables }

def openAt (t : Tree) (name : String) (a : Address) (c : Address.Choice) (l : Location) :
    Except SessionError (Tree × Database) :=
  match t.at? l with
  | some (.file content) => .ok (t, ofFile t ("sqlite:" ++ name) a c l content)
  | some .directory =>
    .error (if c.mode = .readOnly then unreachable else unopenable name)
  | some (.link _) => .error (unopenable name)
  | none =>
    if c.mode = .create ∧ t.at? l.dropLast = some .directory then
      .ok (t.put l (.file (.bytes [])), ofFile t ("sqlite:" ++ name) a c l (.bytes []))
    else .error (unopenable name)

def openAddress (t : Tree) (name : String) (a : Address) (c : Address.Choice) :
    Except SessionError (Tree × Database) :=
  if a.isUnfiled c then
    let access : Access := if a.isReadOnly c then .readOnly else .full
    .ok (t, { fresh ("sqlite:" ++ name) with access := access })
  else
    match t.locate longestWay a.path with
    | .error _ => .error (unopenable name)
    | .ok l =>
      if l = [] ∨ longestLocation < Tree.writtenLength l then .error (unopenable name)
      else if a.permissionsOf?.any fun p => !t.isPresent p then .error unreachable
      else openAt t name a c l

def openNamed (t : Tree) (database : Option String) : Except SessionError (Tree × Database) :=
  match database with
  | none => .ok (t, fresh "sqlite::memory:")
  | some name =>
    let bytes := Path.ofString name
    if bytes.contains 0 then .error (.sqlitePathWithNul (bytes.takeWhile (· ≠ 0)).length)
    else
      match Address.ofText name.toList with
      | .error e => .error e
      | .ok address =>
        match address.choice with
        | .error e => .error e
        | .ok choice => openAddress t name address choice

end ScriptReplay.Database

import ScriptReplay.Session.Log
import ScriptReplay.Session.Sql

namespace ScriptReplay

structure Catalogue where
  tables : Tables
  isReadOnly : Bool
  isLogged : Bool
  deriving DecidableEq, Repr

namespace Catalogue

def ofTables (tables : Tables) : Catalogue :=
  ⟨tables, false, false⟩

structure Entry where
  kind : Text
  name : Text
  owner : Text
  root : Nat
  source : Text

def entryAt? (i : Image) (place : Nat) : Option Entry :=
  match (i.payload place).bind (Image.record 5) with
  | some [kind, name, owner, root, source] =>
    let text (b : Bytes) : Text := (i.encoding.decode b).takeWhile (· ≠ '\x00')
    some ⟨text kind, text name, text owner, Image.number root, text source⟩
  | _ => none

def Entry.hasKind (e : Entry) (kind : String) : Bool :=
  Text.sameCaseless kind.toList e.kind

def malformedEntry (e : Entry) (reason : String) : SessionError :=
  .sqlite 11 (some s!"malformed database schema ({String.ofList e.name}){reason}")

def Entry.sourceFault? (e : Entry) : Option SessionError :=
  let tokens := Sql.tokens 0 e.source
  match Sql.Read.made.run.run ⟨tokens, none⟩, Sql.Statement.command ⟨e.source, tokens⟩ with
  | (.error fault, _), _ => some (malformedEntry e (" - " ++ fault.message))
  | (.ok (kind, name), _), command =>
    if !e.hasKind kind ∨ !Text.sameCaseless name e.name ∨
        (e.hasKind "table" ∨ e.hasKind "view") ∧ !Text.sameCaseless name e.owner then
      some (malformedEntry e "")
    else
      match command with
      | .refused _ (.misplaced _ _) => none
      | .refused _ fault => some (malformedEntry e (" - " ++ fault.message))
      | _ => none

def Entry.fault? (pages : Nat) (e : Entry) : Option SessionError :=
  let isMade := "CR".toList.isPrefixOf (Text.caseless e.source)
  if !isMade ∧ e.source ≠ [] then some (malformedEntry e "")
  else if pages < e.root ∨ !isMade ∧ e.root < 2 then
    some (malformedEntry e " - invalid rootpage")
  else if isMade then e.sourceFault?
  else none

def constraintWords : List String :=
  ["CHECK", "CONSTRAINT", "FOREIGN", "PRIMARY", "UNIQUE"]

def outerItems (depth : Nat) (item : List Sql.Token) : List Sql.Token → List (List Sql.Token)
  | [] => [item]
  | t :: ts =>
    if t.text = ['('] then outerItems (depth + 1) item ts
    else if t.text = [')'] then
      if depth ≤ 1 then [item] else outerItems (depth - 1) item ts
    else if depth ≠ 1 then outerItems depth item ts
    else if t.text = [','] then item :: outerItems depth [] ts
    else outerItems depth (item ++ [t]) ts

def columnNames (tokens : List Sql.Token) : List Text :=
  (outerItems 0 [] tokens).filterMap fun item =>
    match item with
    | [] => none
    | t :: more =>
      if constraintWords.any (fun w => w.toList == Text.caseless t.text) ∨
          more.any (fun m => Text.caseless m.text == ['A', 'S']) then none
      else some t.name

def indexesOf (entries : List Entry) (table : Text) : List Text :=
  (entries.filter fun e => e.hasKind "index" && Text.sameCaseless e.owner table).map (·.name)

def table? (i : Image) (entries : List Entry) (e : Entry) : Option Table :=
  if e.hasKind "view" then some ⟨e.name, true, [], [], 0⟩
  else
    (if e.root = 0 then some [] else i.rows Image.mostDepth e.root).map fun rows =>
      ⟨e.name, false, columnNames (Sql.tokens 0 e.source), indexesOf entries e.name, rows.length⟩

def tables? (i : Image) (entries : List Entry) : Option Tables :=
  ((entries.filter fun e => e.hasKind "table" || e.hasKind "view").mapM (table? i entries)).map
    fun list => ⟨i.encoding, list⟩

def ofImage (i : Image) : Except SessionError Catalogue :=
  match if i.isTableAt 1 then (i.rows Image.mostDepth 1).bind (·.mapM (entryAt? i)) else none with
  | none => .error Image.malformed
  | some entries =>
    match entries.findSome? (Entry.fault? i.pages), tables? i entries with
    | some e, _ => .error e
    | none, none => .error Image.malformed
    | none, some tables => .ok ⟨tables, i.isReadOnly, i.isLogged⟩

end Catalogue

def Content.isEmptyDatabase : Content → Bool
  | .bytes b => b.length ≤ 1
  | .database _ => false

def Content.catalogue (content : Content) (hasLog : Bool) (log : Bytes) :
    Except SessionError Catalogue :=
  match content with
  | .database tables => .ok (.ofTables tables)
  | .bytes b =>
    if content.isEmptyDatabase then .ok (.ofTables .empty)
    else
      match Log.applied b log with
      | .error e => .error e
      | .ok b => (Image.ofBytes b hasLog).bind Catalogue.ofImage

end ScriptReplay

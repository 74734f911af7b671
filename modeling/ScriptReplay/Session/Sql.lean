import ScriptReplay.Session.Token
import ScriptReplay.Text.Caseless

namespace ScriptReplay.Sql

def reservedWords : List String :=
  ["ADD", "ALL", "ALTER", "AND", "AS", "AUTOINCREMENT", "BETWEEN", "CASE", "CHECK", "COLLATE",
    "COMMIT", "CONSTRAINT", "CREATE", "DEFAULT", "DEFERRABLE", "DELETE", "DISTINCT", "DROP",
    "ELSE", "ESCAPE", "EXCEPT", "EXISTS", "FOREIGN", "FROM", "GROUP", "HAVING", "IN", "INDEX",
    "INSERT", "INTERSECT", "INTO", "IS", "ISNULL", "JOIN", "LIMIT", "NOT", "NOTHING", "NOTNULL",
    "NULL", "ON", "OR", "ORDER", "PRIMARY", "REFERENCES", "RETURNING", "SELECT", "SET", "TABLE",
    "THEN", "TO", "TRANSACTION", "UNION", "UNIQUE", "UPDATE", "USING", "VALUES", "WHEN", "WHERE"]

def isReserved (word : Text) : Bool :=
  reservedWords.any fun w => w.toList == Text.caseless word

inductive ValueFault where
  | tooBig (written : Text) (position : Nat)
  | noColumn (name : Text) (position : Nat)
  deriving DecidableEq, Repr

structure NewTable where
  name : Text
  written : Text
  position : Nat
  ifMissing : Bool
  deriving DecidableEq, Repr

inductive Row where
  | usual
  | value (column : Option Text) (fault : Option ValueFault)
  deriving DecidableEq, Repr

inductive Change where
  | createTable (table : NewTable) (column : Text)
  | insertRow (table : Text) (row : Row)
  | dropTable (name : Text) (ifPresent : Bool)
  deriving DecidableEq, Repr

inductive Fault where
  | misplaced (token : Text) (position : Nat)
  | unrecognized (token : Text) (position : Nat)
  | incomplete
  | tooDeep
  | unknownOption (token : Text)
  deriving DecidableEq, Repr

namespace Fault

def message : Fault → String
  | misplaced token _ => s!"near \"{String.ofList token}\": syntax error"
  | unrecognized token _ => s!"unrecognized token: \"{String.ofList token}\""
  | incomplete => "incomplete input"
  | tooDeep => "parser stack overflow"
  | unknownOption token => "unknown table option: " ++ String.ofList token

def position? : Fault → Option Nat
  | misplaced _ position => some position
  | unrecognized _ position => some position
  | _ => none

end Fault

inductive Command where
  | nothing
  | begin
  | commit
  | rollback
  | change (c : Change)
  | refused (begun : Option NewTable) (fault : Fault)
  deriving DecidableEq, Repr

structure Reading where
  left : List Token
  begun : Option NewTable
  deriving DecidableEq, Repr

abbrev Read := ExceptT Fault (StateM Reading)

namespace Read

def left : Read (List Token) :=
  return (← get).left

def goOn (left : List Token) : Read Unit :=
  modify fun r => { r with left := left }

def refuse : Read α := do
  match ← left with
  | [] => throw .incomplete
  | t :: _ =>
    if t.kind = .foreign then throw (.unrecognized t.text t.position)
    else throw (.misplaced t.text t.position)

def sees (texts : List String) : Read Bool := do
  match ← left with
  | [] => return false
  | t :: _ => return texts.any fun text => text.toList == Text.caseless t.text

def takes (texts : List String) : Read Bool := do
  let isSeen ← sees texts
  if isSeen then goOn ((← left).drop 1)
  return isSeen

def words : List String → Read Unit
  | [] => return
  | text :: texts => do
    if ← takes [text] then words texts else refuse

def isName (t : Token) : Bool :=
  t.kind = .quoted || t.kind = .word && !isReserved t.text

def name : Read Token := do
  match ← left with
  | t :: ts => if isName t then goOn ts; return t else refuse
  | [] => refuse

def isDone : Read Bool := do
  match ← left with
  | [] => return true
  | t :: _ => return t.text == [';']

def transaction : Read Unit := do
  if ← takes ["TRANSACTION"] then
    if !(← isDone) then discard name

def mostSigns : Nat := 91

def isSign (t : Token) : Bool :=
  t.text == ['-'] || t.text == ['+'] || t.text == ['~']

def isTooBig (number : Text) (isNegative : Bool) : Bool :=
  match number with
  | '0' :: x :: digits =>
    let digits := digits.dropWhile (· == '0')
    (x == 'x' || x == 'X') &&
      (16 < digits.length || isNegative && digits == '8' :: List.replicate 15 '0')
  | _ => false

def valueWords : List String :=
  ["NULL", "TRUE", "FALSE", "CURRENT_DATE", "CURRENT_TIME", "CURRENT_TIMESTAMP"]

def isVariable (t : Token) : Bool :=
  t.kind = .variable &&
    match t.text with
    | '#' :: c :: _ => !c.isDigit
    | _ => true

def isValue (t : Token) : Bool :=
  isName t || t.kind = .number || t.kind = .bytes || isVariable t ||
    t.kind = .word && valueWords.any fun w => w.toList == Text.caseless t.text

def valueFault? (t : Token) (isNegative : Bool) : Option ValueFault :=
  match t.kind with
  | .number =>
    if isTooBig t.text isNegative then
      some (.tooBig (if isNegative then '-' :: t.text else t.text) t.position)
    else none
  | .word =>
    if valueWords.any fun w => w.toList == Text.caseless t.text then none
    else some (.noColumn t.name t.position)
  | .quoted =>
    if t.text.head?.any (· ∈ ['\'', '"']) then none else some (.noColumn t.name t.position)
  | _ => none

def value : Read (Option ValueFault) := do
  let signs := (← left).takeWhile isSign
  if mostSigns + 1 < signs.length then throw .tooDeep
  goOn ((← left).drop signs.length)
  match ← left with
  | t :: ts =>
    if isValue t then
      if mostSigns < signs.length then throw .tooDeep
      goOn ts
      return valueFault? t (signs.getLast?.any (·.text == ['-']))
    else refuse
  | [] => refuse

def setting : Read Command := do
  if (← left).head?.any fun t => Text.caseless t.name == "FOREIGN_KEYS".toList then
    discard name
    if ← takes ["=", "=="] then settingValue
    else if ← takes ["("] then
      settingValue
      words [")"]
    return .nothing
  else refuse
where
  settingValue : Read Unit := do
    if ← takes ["ON", "DELETE", "DEFAULT"] then return
    let isSigned ← takes ["+", "-"]
    match ← left with
    | t :: ts =>
      if t.kind = .number || !isSigned && isName t then goOn ts else refuse
    | [] => refuse

def tableOption : Read Unit := do
  match ← left with
  | t :: ts =>
    if isName t then
      goOn ts
      let isEnd ← isDone
      let isFollowed ← sees [","]
      if Text.caseless t.text ≠ "STRICT".toList ∧ (isEnd ∨ isFollowed) then
        throw (.unknownOption t.text)
  | [] => return

def column : Read Token := do
  let column ← name
  goOn ((← left).dropWhile isName)
  return column

def createTable : Read Command := do
  let ifMissing ← takes ["IF"]
  if ifMissing then words ["NOT", "EXISTS"]
  let table ← name
  let table := ⟨table.name, table.text, table.position, ifMissing⟩
  if ← sees ["(", "AS"] then modify fun r => { r with begun := some table }
  if ← takes ["AS"] then refuse
  words ["("]
  let column ← column
  words [")"]
  tableOption
  return .change (.createTable table column.name)

def dropTable : Read Command := do
  let ifPresent ← takes ["IF"]
  if ifPresent then words ["EXISTS"]
  return .change (.dropTable (← name).name ifPresent)

def insertRow : Read Command := do
  let table ← name
  if ← takes ["DEFAULT"] then
    words ["VALUES"]
    return .change (.insertRow table.name .usual)
  let column ← if ← takes ["("] then
    let column ← name
    words [")"]
    pure (some column.name)
  else pure none
  words ["VALUES", "("]
  let fault ← value
  words [")"]
  return .change (.insertRow table.name (.value column fault))

def kinds : List (String × List String) :=
  [("table", ["TABLE"]), ("table", ["TEMP", "TABLE"]), ("table", ["TEMPORARY", "TABLE"]),
    ("table", ["VIRTUAL", "TABLE"]), ("view", ["VIEW"]), ("index", ["INDEX"]),
    ("index", ["UNIQUE", "INDEX"]), ("trigger", ["TRIGGER"])]

def made : Read (String × Text) := do
  words ["CREATE"]
  let following := (← left).map fun t => Text.caseless t.text
  match kinds.find? fun k => (k.2.map String.toList).isPrefixOf following with
  | some (kind, texts) =>
    words texts
    if ← takes ["IF"] then words ["NOT", "EXISTS"]
    return (kind, (← name).name)
  | none => refuse

def otherStatements : List String :=
  ["ALTER", "ATTACH", "DELETE", "DETACH", "EXPLAIN", "RELEASE", "REPLACE", "SAVEPOINT", "SELECT",
    "UPDATE", "VALUES", "WITH"]

def statement : Read Command := do
  if ← takes ["BEGIN"] then
    discard (takes ["DEFERRED", "IMMEDIATE", "EXCLUSIVE"])
    transaction
    return .begin
  else if ← takes ["COMMIT", "END"] then
    transaction
    return .commit
  else if ← takes ["ROLLBACK"] then
    transaction
    return .rollback
  else if ← takes ["PRAGMA"] then setting
  else if ← takes ["CREATE"] then
    words ["TABLE"]
    createTable
  else if ← takes ["INSERT"] then
    words ["INTO"]
    insertRow
  else if ← takes ["DROP"] then
    words ["TABLE"]
    dropTable
  else
    discard (takes otherStatements)
    refuse

def whole : Read Command := do
  let command ← statement
  if ← isDone then return command else refuse

end Read

structure Statement where
  source : Text
  tokens : List Token
  deriving DecidableEq, Repr

def Statement.command (s : Statement) : Command :=
  match Read.whole.run.run ⟨s.tokens, none⟩ with
  | (.ok command, _) => command
  | (.error fault, reading) => .refused reading.begun fault

def gather (start : Nat) (source ending : Text) (body : List Token) :
    List Token → List Statement
  | [] => if body = [] then [] else [⟨source, body⟩]
  | t :: ts =>
    let placed := { t with position := t.position - start }
    if t.text ≠ [';'] then gather start source ending (body ++ [placed]) ts
    else if body = [] then gather start source ending [] ts
    else
      let source' := if ending = [] then t.rest else t.rest ++ ending
      ⟨source, body ++ [placed]⟩ :: gather (t.position + 1) source' ending [] ts

def statements (sql : Text) : List Statement :=
  let body := sql.takeWhile (· ≠ '\x00')
  gather 0 sql (sql.drop body.length) [] (tokens 0 body)

end ScriptReplay.Sql

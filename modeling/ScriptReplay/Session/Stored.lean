import ScriptReplay.Tables

namespace ScriptReplay.Tables

def mark : UInt8 := 0xFF

def listMark : UInt8 := 0xFE

def title : Bytes :=
  Utf8.encode "tables and row counts".toList ++ [mark]

def storedTexts (texts : List Text) : Bytes :=
  texts.flatMap fun t => Utf8.encode t ++ [listMark]

def kindNames : List (Bool × Bytes) :=
  [(false, Utf8.encode "table".toList), (true, Utf8.encode "view".toList)]

def encodingNames : List (Encoding × Bytes) :=
  [(.utf8, Utf8.encode "utf8".toList), (.utf16 false, Utf8.encode "utf16le".toList),
    (.utf16 true, Utf8.encode "utf16be".toList)]

def nameOf [BEq α] (names : List (α × Bytes)) (value : α) : Bytes :=
  (names.lookup value).getD []

def named? (names : List (α × Bytes)) (name : Bytes) : Option α :=
  (names.find? (·.2 == name)).map (·.1)

def partsOf (t : Table) : List Bytes :=
  [Utf8.encode t.name, nameOf kindNames t.isView, storedTexts t.columns,
    storedTexts t.indexes, Utf8.encode (Nat.toDigits 10 t.rows)]

def stored (tables : Tables) : Bytes :=
  title ++ (nameOf encodingNames tables.encoding :: tables.list.flatMap partsOf).flatMap
    (· ++ [mark])

def parts (mark : UInt8) : Bytes → Option (List Bytes)
  | [] => some []
  | b :: r =>
    match parts mark r with
    | none => none
    | some ps =>
      if b = mark then some ([] :: ps)
      else
        match ps with
        | [] => none
        | p :: ps => some ((b :: p) :: ps)

def texts? (b : Bytes) : Option (List Text) :=
  (parts listMark b).bind (·.mapM Utf8.decode?)

def rows? (b : Bytes) : Option Nat :=
  (Utf8.decode? b).bind fun t => (String.ofList t).toNat?

def listOfParts : List Bytes → Option (List Table)
  | [] => some []
  | name :: kind :: columns :: indexes :: rows :: rest =>
    match Utf8.decode? name, named? kindNames kind, texts? columns, texts? indexes, rows? rows,
        listOfParts rest with
    | some name, some isView, some columns, some indexes, some rows, some list =>
      some (⟨name, isView, columns, indexes, rows⟩ :: list)
    | _, _, _, _, _, _ => none
  | _ => none

def ofParts : List Bytes → Option Tables
  | [] => none
  | encoding :: rest =>
    match named? encodingNames encoding, listOfParts rest with
    | some encoding, some list => some ⟨encoding, list⟩
    | _, _ => none

def ofStored? (b : Bytes) : Option Tables :=
  if title.isPrefixOf b then (parts mark (b.drop title.length)).bind ofParts else none

end ScriptReplay.Tables

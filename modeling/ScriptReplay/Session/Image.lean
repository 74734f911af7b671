import ScriptReplay.Error
import ScriptReplay.Tree.Content

/-!
The file of a database as bytes: pages of one size, the first of which begins with a header. A table
is a tree of pages whose leaves hold its rows. Numbers begin with their highest byte.
-/

namespace ScriptReplay

/-- The bytes of whole pages, the size and the number of the pages, how much of a page holds data,
how texts are written, whether all this can only be read, and whether changes go to a log. -/
structure Image where
  bytes : Array UInt8
  pageSize : Nat
  pages : Nat
  usable : Nat
  encoding : Encoding
  isReadOnly : Bool
  isLogged : Bool

namespace Image

def number (b : Bytes) : Nat :=
  b.foldl (fun n x => n * 256 + x.toNat) 0

def grouped (left value : Nat) : Bytes → Option (Nat × Bytes)
  | [] => none
  | b :: r =>
    if left = 0 then some (value * 256 + b.toNat, r)
    else if b < 0x80 then some (value * 128 + b.toNat, r)
    else grouped (left - 1) (value * 128 + (b.toNat - 128)) r

def groupedNumber (b : Bytes) : Option (Nat × Bytes) :=
  grouped 8 0 b

def valueLength (type : Nat) : Nat :=
  if 12 ≤ type then (type - 12) / 2
  else [0, 1, 2, 3, 4, 6, 8, 8, 0, 0].getD type 0

def values (count : Nat) (types rest : Bytes) : Option (List Bytes) :=
  match count with
  | 0 => some []
  | count + 1 =>
    match groupedNumber types with
    | none => none
    | some (type, types) =>
      let value := if type = 9 then [1] else rest.take (valueLength type)
      (values count types (rest.drop (valueLength type))).map (value :: ·)

def record (count : Nat) (payload : Bytes) : Option (List Bytes) :=
  match groupedNumber payload with
  | none => none
  | some (header, rest) =>
    let types := header - (payload.length - rest.length)
    values count (rest.take types) (rest.drop types)

variable (i : Image)

def slice (start length : Nat) : Bytes :=
  (i.bytes.extract start (start + length)).toList

def numberAt (start length : Nat) : Nat :=
  number (i.slice start length)

def cells (page head count : Nat) : List Nat :=
  (List.range count).map fun k => (page - 1) * i.pageSize + i.numberAt (head + 2 * k) 2

def pageStart (page : Nat) : Nat :=
  (page - 1) * i.pageSize + (if page = 1 then 100 else 0)

def isTableAt (page : Nat) : Bool :=
  i.bytes[i.pageStart page]? == some 0x0D || i.bytes[i.pageStart page]? == some 0x05

def rows : Nat → Nat → Option (List Nat)
  | 0, _ => none
  | depth + 1, page =>
    let head := i.pageStart page
    let count := i.numberAt (head + 3) 2
    let below (cells : List Nat) : Option (List Nat) :=
      ((cells.map fun cell => i.numberAt cell 4) ++ [i.numberAt (head + 8) 4]).foldl
        (fun found child => match found, rows depth child with
          | some found, some more => some (found ++ more)
          | _, _ => none) (some [])
    if page = 0 ∨ i.pages < page then none
    else
      match i.bytes[head]? with
      | some 0x0D | some 0x0A => some (i.cells page (head + 8) count)
      | some 0x05 => below (i.cells page (head + 12) count)
      | some 0x02 =>
        let cells := i.cells page (head + 12) count
        (below cells).map (cells ++ ·)
      | _ => none

def mostDepth : Nat := 20

def localLength (size : Nat) : Nat :=
  if size ≤ i.usable - 35 then size
  else
    let least := (i.usable - 12) * 32 / 255 - 23
    let most := least + (size - least) % (i.usable - 4)
    if most ≤ i.usable - 35 then most else least

def chained : Nat → Nat → Bytes
  | 0, _ => []
  | pages + 1, page =>
    let start := (page - 1) * i.pageSize
    i.slice (start + 4) (i.usable - 4) ++ chained pages (i.numberAt start 4)

def payload (place : Nat) : Option Bytes :=
  let cell := i.slice place i.pageSize
  match groupedNumber cell with
  | none => none
  | some (size, rest) =>
    match groupedNumber rest with
    | none => none
    | some (_, rest) =>
      let here := rest.take (i.localLength size)
      let left := size - here.length
      let pages := (left + i.usable - 5) / (i.usable - 4)
      let next := number ((rest.drop here.length).take 4)
      some (here ++ (i.chained pages next).take left)

def title : Bytes :=
  Utf8.encode "SQLite format 3\x00".toList

def pageSizes : List Nat :=
  [512, 1024, 2048, 4096, 8192, 16384, 32768, 65536]

def leastUsable : Nat := 480

def notDatabase : SessionError :=
  .sqlite 26 (some "file is not a database")

def malformed : SessionError :=
  .sqlite 11 (some "database disk image is malformed")

def unsupported : SessionError :=
  .sqlite 1 (some "unsupported file format")

def unopenable : SessionError :=
  .sqlite 14 (some "unable to open database file")

def header (b : Bytes) : Bytes :=
  (b ++ List.replicate 100 0).take 100

def part (header : Bytes) (start length : Nat) : Nat :=
  number ((header.drop start).take length)

def toldPages (header : Bytes) : Option Nat :=
  if part header 28 4 ≠ 0 ∧ part header 24 4 = part header 92 4 then some (part header 28 4)
  else none

def encodingOf (header : Bytes) : Encoding :=
  match part header 59 1 % 4 with
  | 2 => .utf16 false
  | 3 => .utf16 true
  | _ => .utf8

def headerFault? (header : Bytes) (hasLog : Bool) : Option SessionError :=
  if header.take title.length ≠ title ∨ 2 < part header 19 1 then some notDatabase
  else if part header 19 1 = 2 ∧ !hasLog then some unopenable
  else if part header 21 3 ≠ 0x402020 then some notDatabase
  else none

def ofBytes (b : Bytes) (hasLog : Bool) : Except SessionError Image :=
  let header := header b
  let size := part header 16 1 * 256 + part header 17 1 * 65536
  let inFile := (b.length + size - 1) / size
  let pages := (toldPages header).getD inFile
  let usable := size - part header 20 1
  match headerFault? header hasLog with
  | some e => .error e
  | none =>
    if !pageSizes.contains size then .error notDatabase
    else if inFile < pages then .error malformed
    else if usable < leastUsable then .error notDatabase
    else if 4 < part header 47 1 then .error unsupported
    else
      .ok {
        bytes := (b ++ List.replicate (inFile * size - b.length) 0).toArray
        pageSize := size
        pages := pages
        usable := usable
        encoding := encodingOf header
        isReadOnly := 2 < part header 18 1
        isLogged := part header 19 1 = 2 }

end Image

end ScriptReplay

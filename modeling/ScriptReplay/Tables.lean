import ScriptReplay.Text.Caseless
import ScriptReplay.Text.Encoding

namespace ScriptReplay

structure Table where
  name : Text
  isView : Bool
  columns : List Text
  indexes : List Text
  rows : Nat
  deriving DecidableEq, Repr

structure Tables where
  encoding : Encoding
  list : List Table
  deriving DecidableEq, Repr

namespace Tables

def empty : Tables :=
  ⟨.utf8, []⟩

def find? (tables : Tables) (name : Text) : Option Table :=
  tables.list.find? fun t => Text.sameCaseless t.name name

def has (tables : Tables) (name : Text) : Bool :=
  tables.list.any fun t => Text.sameCaseless t.name name

def hasIndex (tables : Tables) (name : Text) : Bool :=
  tables.list.any fun t => t.indexes.any fun index => Text.sameCaseless index name

def create (tables : Tables) (name : Text) (columns : List Text) : Tables :=
  { tables with list := tables.list ++ [⟨name, false, columns, [], 0⟩] }

def insert (tables : Tables) (name : Text) : Tables :=
  { tables with
    list := tables.list.map fun t =>
      if Text.sameCaseless t.name name then { t with rows := t.rows + 1 } else t }

def drop (tables : Tables) (name : Text) : Tables :=
  { tables with list := tables.list.filter fun t => !Text.sameCaseless t.name name }

def counts (tables : Tables) : List (Text × Nat) :=
  ((tables.list.filter (!·.isView)).mergeSort fun a b =>
    decide (tables.encoding.encode a.name ≤ tables.encoding.encode b.name)).map
      fun t => (t.name, t.rows)

end Tables

end ScriptReplay

import ScriptReplay.Journal.Basic
import ScriptReplay.Json.Basic
import ScriptReplay.Text.Visible

namespace ScriptReplay

namespace FieldValue

def text : FieldValue → String
  | plain t => String.ofList t
  | quoted t => String.ofList (Text.visible t)
  | number n => toString n

def toJson : FieldValue → Json
  | plain t | quoted t => .ofText t
  | number n => .ofNat n

end FieldValue

namespace Note

def fieldText (field : String × FieldValue) : String :=
  s!" {field.1}=" ++ field.2.text

def line (n : Note) : String :=
  String.ofList (Text.harmless n.message.toList) ++ String.join (n.fields.map fieldText)

def document (time : Text) (n : Note) : Json :=
  let fields := n.fields.map fun f => (f.1, f.2.toJson)
  .ofMembers [
    ("timestamp", .ofText time),
    ("level", .ofString n.level.name),
    ("fields", .ofMembers (("message", .ofString n.message) :: fields))]

end Note

end ScriptReplay

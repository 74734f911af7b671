import ScriptReplay.Tables

namespace ScriptReplay

inductive Content where
  | bytes (bytes : Bytes)
  | database (tables : Tables)
  deriving DecidableEq, Repr

def Content.text? : Content → Option Text
  | .bytes b => Utf8.decode? b
  | .database _ => none

end ScriptReplay

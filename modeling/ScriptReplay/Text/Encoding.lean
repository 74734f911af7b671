import ScriptReplay.Text.Utf16

namespace ScriptReplay

inductive Encoding where
  | utf8
  | utf16 (isHighFirst : Bool)
  deriving DecidableEq, Repr

namespace Encoding

def encode : Encoding → Text → Bytes
  | utf8, t => Utf8.encode t
  | utf16 isHighFirst, t => Utf16.encode isHighFirst t

def decode : Encoding → Bytes → Text
  | utf8, b => Utf8.decodeLossy b
  | utf16 isHighFirst, b => Utf16.decode isHighFirst b

end Encoding

end ScriptReplay

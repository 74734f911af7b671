import ScriptReplay.Text.Utf8

namespace ScriptReplay.Utf16

def unit (isHighFirst : Bool) (n : Nat) : Bytes :=
  if isHighFirst then [.ofNat (n / 256), .ofNat (n % 256)] else [.ofNat (n % 256), .ofNat (n / 256)]

def encodeChar (isHighFirst : Bool) (c : Char) : Bytes :=
  let n := c.toNat
  if n < 0x10000 then unit isHighFirst n
  else
    unit isHighFirst (0xD800 + (n - 0x10000) / 1024) ++
      unit isHighFirst (0xDC00 + (n - 0x10000) % 1024)

def encode (isHighFirst : Bool) (t : Text) : Bytes :=
  t.flatMap (encodeChar isHighFirst)

def units (isHighFirst : Bool) : Bytes → List Nat
  | a :: b :: r =>
    (if isHighFirst then a.toNat * 256 + b.toNat else b.toNat * 256 + a.toNat) ::
      units isHighFirst r
  | _ => []

def character (n : Nat) : Char :=
  if n.isValidChar then .ofNat n else '\uFFFD'

def joined (u v : Nat) : Char :=
  character (v % 1024 + u % 64 * 1024 + (u / 64 % 16 + 1) * 65536)

def ofUnits : List Nat → Text
  | [] => []
  | [u] => [character u]
  | u :: v :: r =>
    if 0xD800 ≤ u ∧ u < 0xE000 then joined u v :: ofUnits r else character u :: ofUnits (v :: r)

def decode (isHighFirst : Bool) (bytes : Bytes) : Text :=
  ofUnits (units isHighFirst bytes)

end ScriptReplay.Utf16

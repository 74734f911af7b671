import ScriptReplay.Text.Blank

namespace ScriptReplay

abbrev Bytes := List UInt8

namespace Utf8

def encodeChar (c : Char) : Bytes :=
  let n := c.toNat
  if n < 0x80 then [.ofNat n]
  else if n < 0x800 then [.ofNat (0xC0 + n / 64), .ofNat (0x80 + n % 64)]
  else if n < 0x10000 then
    [.ofNat (0xE0 + n / 4096), .ofNat (0x80 + n / 64 % 64), .ofNat (0x80 + n % 64)]
  else
    [.ofNat (0xF0 + n / 262144), .ofNat (0x80 + n / 4096 % 64), .ofNat (0x80 + n / 64 % 64),
      .ofNat (0x80 + n % 64)]

def encode (t : Text) : Bytes :=
  t.flatMap encodeChar

def isContinuation (b : UInt8) : Bool :=
  0x80 ≤ b && b ≤ 0xBF

def isSecond (first second : UInt8) : Bool :=
  isContinuation second &&
    (first != 0xE0 || 0xA0 ≤ second) && (first != 0xED || second ≤ 0x9F) &&
    (first != 0xF0 || 0x90 ≤ second) && (first != 0xF4 || second ≤ 0x8F)

def low (b : UInt8) : Nat :=
  b.toNat % 64

def decodeEach : Bytes → List (Option Char)
  | [] => []
  | a :: r =>
    if a < 0x80 then some (Char.ofNat a.toNat) :: decodeEach r
    else if 0xC2 ≤ a && a ≤ 0xDF then
      match r with
      | [] => [none]
      | b :: s =>
        if isContinuation b then some (Char.ofNat (a.toNat % 32 * 64 + low b)) :: decodeEach s
        else none :: decodeEach (b :: s)
    else if 0xE0 ≤ a && a ≤ 0xEF then
      match r with
      | [] => [none]
      | b :: s =>
        if isSecond a b then
          match s with
          | [] => [none]
          | c :: u =>
            if isContinuation c then
              some (Char.ofNat (a.toNat % 16 * 4096 + low b * 64 + low c)) :: decodeEach u
            else none :: decodeEach (c :: u)
        else none :: decodeEach (b :: s)
    else if 0xF0 ≤ a && a ≤ 0xF4 then
      match r with
      | [] => [none]
      | b :: s =>
        if isSecond a b then
          match s with
          | [] => [none]
          | c :: u =>
            if isContinuation c then
              match u with
              | [] => [none]
              | d :: v =>
                if isContinuation d then
                  some (Char.ofNat
                    (a.toNat % 8 * 262144 + low b * 4096 + low c * 64 + low d)) :: decodeEach v
                else none :: decodeEach (d :: v)
            else none :: decodeEach (c :: u)
        else none :: decodeEach (b :: s)
    else none :: decodeEach r

def decode? (bytes : Bytes) : Option Text :=
  (decodeEach bytes).mapM id

def decodeLossy (bytes : Bytes) : Text :=
  (decodeEach bytes).map fun c => c.getD '\uFFFD'

def length (t : Text) : Nat :=
  t.foldl (fun n c => n + c.utf8Size) 0

def drop? : Nat → Text → Option Text
  | 0, t => some t
  | _ + 1, [] => none
  | n + 1, c :: r => if c.utf8Size ≤ n + 1 then drop? (n + 1 - c.utf8Size) r else none

def take? : Nat → Text → Option Text
  | 0, _ => some []
  | _ + 1, [] => none
  | n + 1, c :: r =>
    if c.utf8Size ≤ n + 1 then (take? (n + 1 - c.utf8Size) r).map (c :: ·) else none

def slice? (t : Text) (start stop : Nat) : Option Text :=
  (drop? start t).bind (take? (stop - start))

end Utf8

end ScriptReplay

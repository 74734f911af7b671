import ScriptReplay.Text.Hex
import ScriptReplay.Text.Hidden

namespace ScriptReplay.Text

def numbered (c : Char) : Text :=
  ['\\', 'u', '\x7b'] ++ Nat.toDigits 16 c.toNat ++ ['\x7d']

def visibleChar (c : Char) : Text :=
  if c = '"' then ['\\', '"']
  else if c = '\\' then ['\\', '\\']
  else if c = '\t' then ['\\', 't']
  else if c = '\r' then ['\\', 'r']
  else if c = '\n' then ['\\', 'n']
  else if c = '\x00' then ['\\', '0']
  else if isHidden c then numbered c
  else [c]

def visible (t : Text) : Text :=
  '"' :: (t.flatMap visibleChar ++ ['"'])

def harmlessChar (c : Char) : Text :=
  if c ∈ ['\x07', '\x08', '\x0c', '\x1b', '\x7f'] then
    ['\\', 'x', hexDigit (c.toNat / 16), hexDigit (c.toNat % 16)]
  else if 0x80 ≤ c.toNat ∧ c.toNat ≤ 0x9F then numbered c
  else [c]

def harmless (t : Text) : Text :=
  t.flatMap harmlessChar

end ScriptReplay.Text

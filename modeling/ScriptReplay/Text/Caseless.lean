import ScriptReplay.Text.Blank

namespace ScriptReplay.Text

def caseless (t : Text) : Text :=
  t.map Char.toUpper

def sameCaseless (a b : Text) : Bool :=
  caseless a == caseless b

end ScriptReplay.Text

import ScriptReplay.Text.Lines

namespace ScriptReplay

open Text

def previewLength : Nat := 120

def ellipsis : Text := [' ', '.', '.', '.']

def preview (statement : Text) : Text :=
  let first := trim ((lines statement).headD [])
  if previewLength < first.length ∨ 1 < (lines statement).length then
    first.take previewLength ++ ellipsis
  else first

end ScriptReplay

import ScriptReplay.Text.Capital
import ScriptReplay.Text.Lines
import ScriptReplay.Text.Pieces

namespace ScriptReplay.Directive

open Text

def keyword : Text := ['S', 'E', 'T', ' ', 'T', 'E', 'R', 'M']

def defaultTerminator : Text := [';']

/-- The first eight characters decide, in either case of the letters A to Z. -/
def isDirective (line : Text) : Bool :=
  (line.take keyword.length).map Char.toUpper == keyword

def withoutLastSemicolons (word : Text) : Text :=
  (word.reverse.dropWhile (· == ';')).reverse

def terminatorOfWord (word : Text) : Text :=
  match withoutLastSemicolons word with
  | [] => defaultTerminator
  | c :: r => c :: r

def terminator? (line : Text) : Option Text :=
  match words line with
  | _ :: _ :: word :: _ => some (terminatorOfWord word)
  | _ => none

def mentionedIn (script : Text) : Bool :=
  contains keyword (capitals script)

inductive Effect where
  | changed (old new : Text)
  | ignored (line : Text)
  deriving DecidableEq, Repr

def effects (active : Text) : List Text → List Effect
  | [] => []
  | l :: ls =>
    let shown := trim l
    if isDirective shown then
      match terminator? shown with
      | some t => .changed active t :: effects t ls
      | none => .ignored shown :: effects active ls
    else effects active ls

end ScriptReplay.Directive

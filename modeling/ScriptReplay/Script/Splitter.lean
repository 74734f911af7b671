import ScriptReplay.Script.Directive

/-!
Cutting a script without comments into statements. Without directives every semicolon is a
boundary. With them a text is read line by line: a line that ends with the terminator in force
closes the open text, which is then cut at each terminator; a directive closes it as it stands.
Statements are trimmed and blank ones are dropped.
-/

namespace ScriptReplay

open Text Directive

def nonBlank (parts : List Text) : List Text :=
  (parts.map trim).filter (· ≠ [])

structure Splitter where
  terminator : Text
  openText : Text
  statements : List Text
  deriving DecidableEq, Repr

namespace Splitter

def start : Splitter where
  terminator := defaultTerminator
  openText := []
  statements := []

def closedPart (terminator buffer : Text) : Text :=
  match breakOnLast terminator buffer with
  | some (body, _) => body
  | none => buffer

def closeTerminated (s : Splitter) : Splitter :=
  { s with
    openText := []
    statements := s.statements ++
      nonBlank (pieces s.terminator (closedPart s.terminator s.openText)) }

def closeAsItStands (s : Splitter) : Splitter :=
  { s with openText := [], statements := s.statements ++ nonBlank [s.openText] }

def feed (s : Splitter) (line : Text) : Splitter :=
  let shown := trim line
  if isDirective shown then
    let closed := s.closeAsItStands
    { closed with terminator := (terminator? shown).getD s.terminator }
  else
    let longer := { s with openText := s.openText ++ line ++ ['\n'] }
    if s.terminator.isSuffixOf shown then longer.closeTerminated else longer

def feedAll (s : Splitter) (ls : List Text) : Splitter :=
  ls.foldl feed s

def finish (s : Splitter) : List Text :=
  if trim s.openText = [] then s.statements
  else s.statements ++ nonBlank (pieces s.terminator s.openText)

end Splitter

def splitPlain (t : Text) : List Text :=
  nonBlank (pieces defaultTerminator t)

def splitDirected (t : Text) : List Text :=
  (Splitter.start.feedAll (lines (unifyBreaks t))).finish

end ScriptReplay

import ScriptReplay.Script.Comment
import ScriptReplay.Script.Splitter

namespace ScriptReplay

open Text

structure Script where
  statements : List Text
  directed : Bool
  deriving DecidableEq, Repr

namespace Script

def empty : Script where
  statements := []
  directed := false

def read (source : Text) : Script :=
  if trim source = [] then empty
  else if Directive.mentionedIn source then
    { statements := splitDirected (Comment.strip source), directed := true }
  else
    { statements := splitPlain (Comment.strip source), directed := false }

def directiveEffects (source : Text) : List Directive.Effect :=
  if (read source).directed then
    Directive.effects Directive.defaultTerminator (lines (unifyBreaks (Comment.strip source)))
  else []

end Script

end ScriptReplay

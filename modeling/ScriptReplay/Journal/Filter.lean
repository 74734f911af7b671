import ScriptReplay.Journal.Basic
import ScriptReplay.Text.Pattern
import ScriptReplay.Text.Pieces
import ScriptReplay.Text.Utf8

/-!
Log filters. A filter is a list of rules; a rule shows notes up to a level, of every area or of the
areas whose path begins as it says, and perhaps only those that have a field. Of the rules that fit
a note the closest decides, the one with the longer path or, among equal paths, the one that asks
for a field; of equally close ones the one whose field is later in the alphabet, and of equal ones
the last. A note that no rule fits is not shown.
-/

namespace ScriptReplay

structure FieldDemand where
  name : Text
  value : Option Text
  deriving DecidableEq, Repr

structure LogRule where
  path : Text
  span : Option Text
  field : Option FieldDemand
  rank : Nat
  deriving DecidableEq, Repr

abbrev LogFilter := List LogRule

namespace LogFilter

def levelNames : List (Text × Nat) :=
  ("OFF".toList, 0) :: [Level.error, .warn, .info, .debug, .trace].map fun level =>
    (level.name.toList, level.rank)

def number? (t : Text) : Option Nat :=
  let digits := match t with
    | '+' :: r => r
    | t => t
  if digits ≠ [] ∧ digits.all Char.isDigit then
    some (digits.foldl (fun n c => n * 10 + (c.toNat - 48)) 0)
  else none

def levelRank? (t : Text) : Option Nat :=
  match number? t with
  | some n => if n ≤ Level.trace.rank then some n else none
  | none => levelNames.lookup (t.map Char.toUpper)

def rankAfterSign? : Text → Option Nat
  | [] => some Level.trace.rank
  | t => levelRank? t

def mayBegin (c : Char) : Bool :=
  c == '-' || c == ':' || c == '_' || Text.isAlphanumeric c

def isDecimal (t : Text) : Bool :=
  let whole := t.takeWhile Char.isDigit
  let (fraction, rest) := match t.drop whole.length with
    | '.' :: r => (r.takeWhile Char.isDigit, r.dropWhile Char.isDigit)
    | r => ([], r)
  whole ++ fraction ≠ [] &&
    match rest with
    | [] => true
    | e :: r =>
      let digits := match r with
        | '+' :: r | '-' :: r => r
        | r => r
      (e == 'e' || e == 'E') && digits ≠ [] && digits.all Char.isDigit

def isSignedNumber (t : Text) : Bool :=
  match t with
  | '+' :: r => isDecimal r || ["inf", "infinity", "nan"].any (·.toList == r.map Char.toLower)
  | _ => false

def demand? (t : Text) : Option FieldDemand :=
  match Text.pieces ['='] t with
  | name :: value :: _ =>
    if isSignedNumber value ∨ Text.Pattern.isWellFormed value then some ⟨name, some value⟩ else none
  | _ => some ⟨t, none⟩

def rankFrom? (text rest : Text) (start : Nat) : Option Nat :=
  match rest with
  | [] => some Level.trace.rank
  | '=' :: _ => (Utf8.drop? (start + 1) text).bind rankAfterSign?
  | _ => none

def field? (text : Text) (start stop : Nat) : Option FieldDemand :=
  match Utf8.slice? text start stop with
  | none | some [] => none
  | some field => demand? field

def bracketRule? (text rest path : Text) (start : Nat) : Option LogRule :=
  let name := rest.takeWhile (· ∉ [']', '{'])
  let stop := start + Utf8.length name
  match Utf8.slice? text start stop, rest.drop name.length with
  | some span, ']' :: rest =>
    (rankFrom? text rest (stop + 1)).map fun rank => ⟨path, some span, none, rank⟩
  | some span, '{' :: inner =>
    let body := inner.takeWhile (· ≠ '}')
    let last := stop + 1 + Utf8.length body
    match inner.drop body.length with
    | '}' :: ']' :: rest =>
      match field? text (stop + 1) last, rankFrom? text rest (last + 2) with
      | some demand, some rank =>
        some ⟨path, if span = [] then none else some span, some demand, rank⟩
      | _, _ => none
    | _ => none
  | _, _ => none

def rule? (text : Text) : Option LogRule :=
  match Text.trim text with
  | [] => none
  | '[' :: rest => bracketRule? text rest [] 1
  | c :: r =>
    if !mayBegin c then none
    else
      let name := (c :: r).takeWhile (· ∉ ['=', '['])
      let stop := Utf8.length name
      match Utf8.take? stop text, (c :: r).drop name.length with
      | some path, '=' :: _ =>
        ((Utf8.drop? (stop + 1) text).bind rankAfterSign?).map fun rank => ⟨path, none, none, rank⟩
      | some path, '[' :: rest => bracketRule? text rest path (stop + 1)
      | _, [] =>
        match levelRank? text with
        | some rank => some ⟨[], none, none, rank⟩
        | none => some ⟨text, none, none, Level.trace.rank⟩
      | _, _ => none

def ofText (t : Text) : Option LogFilter :=
  ((Text.pieces [','] t).filter (· ≠ [])).mapM rule?

def ofVerbosity (verbosity : String) : LogFilter :=
  let level :=
    match verbosity.toLower with
    | "trace" => Level.trace
    | "debug" => Level.debug
    | "warn" => Level.warn
    | "error" => Level.error
    | _ => Level.info
  [⟨"dbmeta".toList, none, none, level.rank⟩]

def choose (given : Option String) (verbosity : String) : LogFilter :=
  match given.bind fun s => ofText s.toList with
  | some filter => filter
  | none => ofVerbosity verbosity

def hasField (n : Note) (name : Text) : Bool :=
  ("message" :: n.fields.map (·.1)).any fun f => f.toList == name

def fits (n : Note) (r : LogRule) : Bool :=
  r.span.isNone && r.path.isPrefixOf n.area.path.toList &&
    match r.field with
    | none => true
    | some demand => demand.value.isNone && hasField n demand.name

def noLessClose (a b : LogRule) : Bool :=
  if a.path.length ≠ b.path.length then a.path.length < b.path.length
  else
    match a.field, b.field with
    | none, _ => true
    | some _, none => false
    | some x, some y => decide (Utf8.encode x.name ≤ Utf8.encode y.name)

def closer (best : Option LogRule) (r : LogRule) : Option LogRule :=
  match best with
  | none => some r
  | some b => if noLessClose b r then some r else some b

def shows (filter : LogFilter) (n : Note) : Bool :=
  match (filter.filter (fits n)).foldl closer none with
  | none => false
  | some r => n.level.rank ≤ r.rank

end LogFilter

end ScriptReplay

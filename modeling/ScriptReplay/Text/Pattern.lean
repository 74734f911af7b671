import ScriptReplay.Text.Pattern.Atom

/-!
Whether a text is a well-formed regular expression, read from left to right. What is open is kept in
two stacks: groups, each with the flags that hold again after it, and classes within classes. Of
what was read only the height is kept, which has a bound. Not to be had are counted repetitions and
looking around.
-/

namespace ScriptReplay.Text.Pattern

def joined (heights : List Nat) : Nat :=
  match heights with
  | [] => 0
  | [h] => h
  | hs => hs.foldl max 0 + 1

structure Part where
  height : Nat
  isRepeatable : Bool
  deriving DecidableEq, Repr

structure Group where
  alternatives : List Nat
  parts : List Part
  around : Flags
  deriving DecidableEq, Repr

namespace Group

def sequence (g : Group) : Nat :=
  joined (g.parts.map (·.height))

def height (g : Group) : Nat :=
  joined (g.sequence :: g.alternatives)

def add (g : Group) (part : Part) : Group :=
  { g with parts := part :: g.parts }

end Group

structure OpenClass where
  isNegated : Bool
  isFresh : Bool
  operand : Option Nat
  items : List Nat
  deriving DecidableEq, Repr

namespace OpenClass

def height (c : OpenClass) : Nat :=
  match c.operand with
  | none => joined c.items
  | some h => max h (joined c.items) + 1

def add (c : OpenClass) (height : Nat) : OpenClass :=
  { c with items := height :: c.items }

end OpenClass

structure Progress where
  flags : Flags
  group : Group
  groups : List Group
  classes : List OpenClass
  names : List Text
  deriving DecidableEq, Repr

namespace Progress

def start : Progress :=
  let flags : Flags := ⟨true, false, false⟩
  ⟨flags, ⟨[], [], flags⟩, [], [], []⟩

def add (p : Progress) (part : Part) : Progress :=
  { p with group := p.group.add part }

def openGroup (p : Progress) (flags : Flags) : Progress :=
  { p with flags := flags, group := ⟨[], [], p.flags⟩, groups := p.group :: p.groups }

def readOpening (p : Progress) : Text → Option (Progress × Text)
  | '?' :: 'P' :: '<' :: r | '?' :: '<' :: r =>
    match givenName [] r with
    | some (name, r) =>
      if p.names.any (· == name) then none
      else some ({ p.openGroup p.flags with names := name :: p.names }, r)
    | none => none
  | '?' :: r =>
    match givenFlags [] r with
    | some (given, mark, r) =>
      let flags := p.flags.set given
      if mark = ':' then some (p.openGroup flags, r)
      else if given = [] then none
      else some ({ p.add ⟨0, false⟩ with flags := flags }, r)
    | none => none
  | r => some (p.openGroup p.flags, r)

def closeGroup (p : Progress) : Option Progress :=
  match p.groups with
  | [] => none
  | outer :: groups =>
    some { p with
      flags := p.group.around
      group := outer.add ⟨p.group.height + 1, true⟩
      groups := groups }

def alternate (p : Progress) : Progress :=
  let g := p.group
  { p with group := { g with alternatives := g.sequence :: g.alternatives, parts := [] } }

def repeated (p : Progress) : Option Progress :=
  match p.group.parts with
  | part :: parts =>
    if part.isRepeatable then
      some { p with group := { p.group with parts := ⟨part.height + 1, true⟩ :: parts } }
    else none
  | [] => none

def openClass (p : Progress) (r : Text) : Progress × Text :=
  let opened (isNegated : Bool) : Progress :=
    { p with classes := ⟨isNegated, true, none, []⟩ :: p.classes }
  match p.flags.skip r with
  | '^' :: r => (opened true, r)
  | r => (opened false, r)

def outside (p : Progress) : Text → Option (Progress × Text)
  | '(' :: r => p.readOpening (p.flags.skip r)
  | ')' :: r => p.closeGroup.map (·, r)
  | '|' :: r => some (p.alternate, r)
  | '[' :: r => some (p.openClass r)
  | '{' :: _ => none
  | '*' :: r | '+' :: r | '?' :: r =>
    p.repeated.map fun p => (p, match r with
      | '?' :: r => r
      | r => r)
  | t =>
    match Atom.ofText p.flags t with
    | some (atom, r) => if atom.isKnown p.flags then some (p.add ⟨0, true⟩, r) else none
    | none => none

def closeClass (p : Progress) (c : OpenClass) (outer : List OpenClass) : Option Progress :=
  if c.isNegated && !p.flags.areWhole then none
  else
    match outer with
    | [] => some { p.add ⟨c.height + 1, true⟩ with classes := [] }
    | o :: os => some { p with classes := o.add (c.height + 1) :: os }

def item (f : Flags) (t : Text) : Option Text :=
  match Atom.ofItem f t with
  | none => none
  | some (first, r) =>
    let single (r : Text) : Option Text := if first.isItem f then some r else none
    match f.skip r with
    | '-' :: r =>
      if f.ahead? r = some ']' ∨ f.ahead? r = some '-' then single ('-' :: r)
      else
        match Atom.ofItem f (f.skip r) with
        | some (last, r) => if Atom.isRange f first last then some r else none
        | none => none
    | r => single r

def inside (p : Progress) (c : OpenClass) (outer : List OpenClass) (t : Text) :
    Option (Progress × Text) :=
  let f := p.flags
  let goOn (c : OpenClass) : Progress := { p with classes := c :: outer }
  let after (c : OpenClass) (r : Option Text) : Option (Progress × Text) :=
    r.map fun r => (goOn (c.add 0), r)
  let operator (r : Text) : Option (Progress × Text) :=
    some (goOn { c with isFresh := false, operand := some c.height, items := [] }, r)
  let isPlain := (Atom.literal '-' false).isItem f
  let later := { c with isFresh := false }
  match t with
  | '-' :: r =>
    if c.isFresh then after c (if isPlain then some r else none)
    else if r.head? = some '-' then operator r.tail
    else after later (item f t)
  | ']' :: r =>
    if c.isFresh ∧ c.items = [] then after later (if isPlain then some r else none)
    else (p.closeClass c outer).map (·, r)
  | '[' :: r =>
    match namedClass? r with
    | some (isNegated, r) =>
      after later (if (if f.areWhole then f.areCaseless else isNegated) then none else some r)
    | none => some ((goOn later).openClass r)
  | '&' :: '&' :: r | '~' :: '~' :: r => operator r
  | t => after later (item f t)

def step (p : Progress) (t : Text) : Option (Progress × Text) :=
  match p.classes with
  | [] => p.outside t
  | c :: outer => p.inside c outer t

def read : Nat → Progress → Text → Option Progress
  | 0, p, t => if p.flags.skip t = [] then some p else none
  | steps + 1, p, t =>
    match p.flags.skip t with
    | [] => some p
    | c :: r => (p.step (c :: r)).bind fun next => read steps next.1 next.2

def mostHeight : Nat := 250

def isComplete (p : Progress) : Bool :=
  p.groups.isEmpty && p.classes.isEmpty && p.group.height ≤ mostHeight

end Progress

def isWellFormed (t : Text) : Bool :=
  match Progress.start.read t.length t with
  | some p => p.isComplete
  | none => false

end ScriptReplay.Text.Pattern

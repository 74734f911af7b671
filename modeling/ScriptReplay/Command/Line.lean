import ScriptReplay.Command.Options
import ScriptReplay.Text.Pieces

namespace ScriptReplay.CommandLine

abbrev Settled := List (Opt × Text)

structure Scan where
  settled : Settled := []
  pending : Option (Opt × Option Text) := none
  awaiting : Bool := false
  plain : Bool := false
  hasFile : Bool := false
  deriving Repr

namespace Scan

def settle (s : Scan) (o : Opt) (value : Text) : Except Problem Scan :=
  if (s.settled.lookup o).isSome ∧ !o.isRepeatable then .error .repeatedOption
  else
    match checkValue o value with
    | .error e => .error e
    | .ok () => .ok { s with settled := s.settled ++ [(o, value)] }

def resolve (s : Scan) : Except Problem Scan :=
  let rest := { s with pending := none, awaiting := false }
  match s.pending with
  | none => .ok rest
  | some (_, none) => .error .unfitValue
  | some (o, some value) => rest.settle o value

def take (s : Scan) (o : Opt) : Except Problem Scan := do
  let s ← s.resolve
  if o.takesValue then return { s with pending := some (o, none), awaiting := true }
  else if o = .help then throw .helpWanted
  else if o = .version then throw .versionWanted
  else s.settle o []

def takeWith (s : Scan) (o : Opt) (value : Text) : Except Problem Scan := do
  let s ← s.resolve
  s.settle o value

def takeLong (place : Place) (s : Scan) (written : Text) : Except Problem Scan :=
  let (name, value) := match Text.breakOn ['='] written with
    | some (name, value) => (name, some value)
    | none => (written, none)
  match (longNames place).lookup (String.ofList name), value with
  | none, _ => .error .unknownArgument
  | some o, none => s.take o
  | some o, some value => if o.takesValue then s.takeWith o value else .error .needlessValue

def takeShort (place : Place) (s : Scan) : Text → Except Problem Scan
  | [] => .ok s
  | c :: r =>
    match (shortNames place).lookup c with
    | none => .error .unknownArgument
    | some o =>
      if !o.takesValue then
        match s.take o with
        | .ok s => takeShort place s r
        | .error e => .error e
      else
        match r with
        | [] => s.take o
        | '=' :: value => s.takeWith o value
        | value => s.takeWith o value

def takePlain (place : Place) (s : Scan) (argument : Text) : Except Problem Scan := do
  if place = .parse ∧ !s.hasFile then
    let s ← s.resolve
    return { s with pending := some (.file, some argument), hasFile := true }
  else if place = .program then
    let name := String.ofList argument
    throw (if s.plain ∧ ((commandNamed? name).isSome ∨ name = "help") then .unknownArgument
      else .unknownCommand)
  else throw .unknownArgument

def feed (place : Place) (s : Scan) (argument : Text) : Except Problem Scan :=
  if s.plain then s.takePlain place argument
  else
    match argument with
    | ['-', '-'] => .ok { s with plain := true }
    | '-' :: '-' :: written => s.takeLong place written
    | '-' :: c :: r => s.takeShort place (c :: r)
    | value =>
      match s.awaiting, s.pending with
      | true, some (o, _) => .ok { s with pending := some (o, some value), awaiting := false }
      | _, _ => s.takePlain place value

def mayEnterCommand (s : Scan) : Bool :=
  !s.plain && !s.awaiting

end Scan

def scanAll (place : Place) (s : Scan) : List Text → Except Problem Scan
  | [] => s.resolve
  | argument :: rest =>
    match s.feed place argument with
    | .ok s => scanAll place s rest
    | .error e => .error e

def scanCommand (place : Place) (arguments : List Text) : Except Problem Settled := do
  let s ← scanAll place {} arguments
  if place = .parse ∧ (s.settled.lookup .file).isNone then throw .missingArgument
  return s.settled

def helpFor : List Text → Problem
  | [] => .helpWanted
  | [name] =>
    let name := String.ofList name
    if (commandNamed? name).isSome ∨ name = "help" then .helpWanted else .unknownCommand
  | _ => .unknownCommand

def scanProgram (s : Scan) : List Text → Except Problem (Settled × Place × Settled)
  | [] => do
    let s ← s.resolve
    throw (if s.settled = [] then .noArguments else .noCommand)
  | argument :: rest =>
    let name := String.ofList argument
    if s.mayEnterCommand ∧ name = "help" then .error (helpFor rest)
    else
      match if s.mayEnterCommand then commandNamed? name else none with
      | some place => do
        let own ← scanCommand place rest
        let s ← s.resolve
        return (s.settled, place, own)
      | none =>
        match s.feed .program argument with
        | .ok s => scanProgram s rest
        | .error e => .error e

end ScriptReplay.CommandLine

import ScriptReplay.Json.Quoted

namespace ScriptReplay

inductive Json where
  | null
  | bool (b : Bool)
  | number (written : Text)
  | string (written : Text)
  | list (items : List Json)
  | object (members : List (Text × Json))
  deriving Repr

namespace Json

def ofText (t : Text) : Json :=
  string (escape t)

def ofString (s : String) : Json :=
  ofText s.toList

def ofNat (n : Nat) : Json :=
  number (Nat.toDigits 10 n)

def ofTexts (ts : List Text) : Json :=
  list (ts.map ofText)

def ofMembers (members : List (String × Json)) : Json :=
  object (members.map fun m => (m.1.toList, m.2))

def newLine (depth : Nat) : Text :=
  '\n' :: List.replicate (2 * depth) ' '

def quote (written : Text) : Text :=
  '"' :: (written ++ ['"'])

mutual

def pretty (depth : Nat) : Json → Text
  | null => ['n', 'u', 'l', 'l']
  | bool true => ['t', 'r', 'u', 'e']
  | bool false => ['f', 'a', 'l', 's', 'e']
  | number written => written
  | string written => quote written
  | list [] => ['[', ']']
  | list (v :: vs) =>
    '[' :: (newLine (depth + 1) ++ pretty (depth + 1) v ++ prettyItems (depth + 1) vs ++
      newLine depth ++ [']'])
  | object [] => ['{', '}']
  | object ((k, v) :: ms) =>
    '{' :: (newLine (depth + 1) ++ quote k ++ [':', ' '] ++ pretty (depth + 1) v ++
      prettyMembers (depth + 1) ms ++ newLine depth ++ ['}'])

def prettyItems (depth : Nat) : List Json → Text
  | [] => []
  | v :: vs => ',' :: (newLine depth ++ pretty depth v ++ prettyItems depth vs)

def prettyMembers (depth : Nat) : List (Text × Json) → Text
  | [] => []
  | (k, v) :: ms =>
    ',' :: (newLine depth ++ quote k ++ [':', ' '] ++ pretty depth v ++ prettyMembers depth ms)

end

def text (v : Json) : Text :=
  pretty 0 v

mutual

def dense : Json → Text
  | list [] => ['[', ']']
  | list (v :: vs) => '[' :: (dense v ++ denseItems vs ++ [']'])
  | object [] => ['{', '}']
  | object ((k, v) :: ms) => '{' :: (quote k ++ ':' :: dense v ++ denseMembers ms ++ ['}'])
  | v => pretty 0 v

def denseItems : List Json → Text
  | [] => []
  | v :: vs => ',' :: (dense v ++ denseItems vs)

def denseMembers : List (Text × Json) → Text
  | [] => []
  | (k, v) :: ms => ',' :: (quote k ++ ':' :: dense v ++ denseMembers ms)

end

end Json

end ScriptReplay

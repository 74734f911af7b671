import ScriptReplay.Config.Document
import ScriptReplay.Journal.Basic
import ScriptReplay.Tree.Change

namespace ScriptReplay

structure Noted (α : Type) where
  journal : Journal
  result : α

namespace Config

def load (t : Tree) (path : String) : Noted (Except ReplayError Config) :=
  match t.readText (Path.ofString path) with
  | .error e => ⟨[], .error (.config s!"cannot read {path}: {e.message}")⟩
  | .ok text =>
    match ofText text with
    | none => ⟨[], .error (.malformedConfig path)⟩
    | some c => ⟨[.configLoaded path], .ok c⟩

def loadStandard (t : Tree) (path : String) : Noted Config :=
  if t.isPresent (Path.ofString path) then
    let loaded := load t path
    match loaded.result with
    | .ok c => ⟨loaded.journal, c⟩
    | .error e => ⟨loaded.journal ++ [.configIgnored path e], standard⟩
  else ⟨[], standard⟩

def save (c : Config) (t : Tree) (path : String) : Except ReplayError Tree :=
  let p := Path.ofString path
  match t.makeParent p with
  | .error e => .error (.file e)
  | .ok t =>
    match t.write p (.bytes (Utf8.encode c.text)) with
    | .error e => .error (.file e)
    | .ok t => .ok t

end Config

end ScriptReplay

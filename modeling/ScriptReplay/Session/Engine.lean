import ScriptReplay.Session.Basic

/-!
A session on a connection to an embedded database. Of the engine behind the connection it uses two
things only: whether a transaction is open, and the execution of a text.
-/

namespace ScriptReplay

/-- A connection to an engine. It is in autocommit while no transaction is open on it; executing a
batch executes the statements of a text up to the first that fails. -/
class Engine (κ : Type) where
  isAutocommit : κ → Bool
  executeBatch : κ → Text → κ × Answer
  describe : κ → String
  inTree : κ → Tree → Tree

namespace Engine

def nestedBegin : SessionError :=
  .misuse "a transaction is already open on this connection"

section

variable {κ : Type} [Engine κ]

def begin (c : κ) : κ × Answer :=
  if isAutocommit c then executeBatch c "BEGIN".toList else (c, .error nestedBegin)

def commit (c : κ) : κ × Answer :=
  executeBatch c "COMMIT".toList

def rollback (c : κ) : κ × Answer :=
  -- A statement that failed may have ended the transaction.
  if isAutocommit c then (c, .ok ()) else executeBatch c "ROLLBACK".toList

instance : Session κ where
  begin := begin
  execute := executeBatch
  commit := commit
  rollback := rollback
  describe := describe
  inTree := inTree

end

section

variable {κ ι : Type}

def runEach (step : κ → ι → κ × Answer) (c : κ) : List ι → κ × Answer
  | [] => (c, .ok ())
  | statement :: rest =>
    match step c statement with
    | (u, .ok ()) => runEach step u rest
    | (u, .error e) => (u, .error e)

end

end Engine

end ScriptReplay

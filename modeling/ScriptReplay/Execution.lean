import ScriptReplay.Script.Reading
import ScriptReplay.Transaction

namespace ScriptReplay.Execution

variable {σ : Type} [Session σ]

def executeFrom (index : Nat) (s : σ) : List Text → Ran σ (Except ReplayError Unit)
  | [] => ⟨s, [], .ok ()⟩
  | sql :: rest =>
    match Session.execute s sql with
    | (s, .ok ()) =>
      let later := executeFrom (index + 1) s rest
      ⟨later.session, .executing index :: later.journal, later.result⟩
    | (s, .error e) => ⟨s, [.executing index], .error (.ofStatement index sql e)⟩

def executeAll (s : σ) (statements : List Text) : Ran σ (Except ReplayError Unit) :=
  match Session.begin s with
  | (s, .error e) => ⟨s, [], .error (.transaction e)⟩
  | (s, .ok ()) =>
    let body := executeFrom 1 s statements
    match body.result with
    | .error e =>
      let ended := Transaction.rollback body.session
      let notes := match ended.result with
        | .ok () => []
        | .error r => [.rollbackFailed r]
      ⟨ended.session, body.journal ++ notes, .error e⟩
    | .ok () =>
      let ended := Transaction.commit body.session
      ⟨ended.session, body.journal ++ ended.journal, ended.result.mapError .transaction⟩

def executeScript (s : σ) (source : Text) : Ran σ (Except ReplayError Nat) :=
  let script := Script.read source
  let notes := (Script.directiveEffects source).map Note.directive
  if script.statements = [] then ⟨s, notes ++ [.noStatements], .ok 0⟩
  else
    let ran := executeAll s script.statements
    ⟨ran.session, notes ++ ran.journal, ran.result.map fun _ => script.statements.length⟩

end ScriptReplay.Execution

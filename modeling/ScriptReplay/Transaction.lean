import ScriptReplay.Session.Basic

/-!
A transaction over a session, from a begin that succeeded to exactly one end. A commit that is
refused is followed by a rollback, and a transaction left without an end is rolled back; a rollback
that fails there is noted and nothing more.
-/

namespace ScriptReplay.Transaction

variable {σ : Type} [Session σ]

def abandon (s : σ) : Ran σ Unit :=
  match Session.rollback s with
  | (s, .ok ()) => ⟨s, [], ()⟩
  | (s, .error e) => ⟨s, [.abandonedRollbackFailed e], ()⟩

def commit (s : σ) : Ran σ Answer :=
  match Session.commit s with
  | (s, .ok ()) => ⟨s, [], .ok ()⟩
  | (s, .error e) =>
    let left := abandon s
    ⟨left.session, left.journal, .error e⟩

def rollback (s : σ) : Ran σ Answer :=
  let (s, answer) := Session.rollback s
  ⟨s, [], answer⟩

/-- A transaction that has begun on a session, and whether it has had its end. -/
structure Guard (σ : Type) where
  session : σ
  finished : Bool

namespace Guard

def execute (g : Guard σ) (sql : Text) : Guard σ × Answer :=
  let (s, answer) := Session.execute g.session sql
  ({ g with session := s }, answer)

def executeEach (g : Guard σ) : List Text → Guard σ × List Answer
  | [] => (g, [])
  | sql :: rest =>
    let (g, answer) := g.execute sql
    let (g, answers) := executeEach g rest
    (g, answer :: answers)

def commit (g : Guard σ) : Guard σ × Answer :=
  match Session.commit g.session with
  | (s, .ok ()) => (⟨s, true⟩, .ok ())
  | (s, .error e) => ({ g with session := s }, .error e)

def rollback (g : Guard σ) : Guard σ × Answer :=
  let (s, answer) := Session.rollback g.session
  (⟨s, true⟩, answer)

def release (g : Guard σ) : Ran σ Unit :=
  if g.finished then ⟨g.session, [], ()⟩ else abandon g.session

end Guard

inductive Ending where
  | commit
  | rollback
  | abandon
  deriving DecidableEq, Repr

def conclude (ending : Ending) (g : Guard σ) : Ran σ Answer :=
  let (g, answer) : Guard σ × Answer := match ending with
    | .commit => g.commit
    | .rollback => g.rollback
    | .abandon => (g, .ok ())
  let left := g.release
  ⟨left.session, left.journal, answer⟩

def whole (s : σ) (statements : List Text) (ending : Ending) :
    Ran σ (Except SessionError (List Answer × Answer)) :=
  match Session.begin s with
  | (s, .error e) => ⟨s, [], .error e⟩
  | (s, .ok ()) =>
    let (g, answers) := Guard.executeEach ⟨s, false⟩ statements
    let ended := conclude ending g
    ⟨ended.session, ended.journal, .ok (answers, ended.result)⟩

end ScriptReplay.Transaction

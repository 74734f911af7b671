import ScriptReplay.Journal.Basic
import ScriptReplay.Tree.Basic

namespace ScriptReplay

abbrev Answer := Except SessionError Unit

class Session (σ : Type) where
  begin : σ → σ × Answer
  execute : σ → Text → σ × Answer
  commit : σ → σ × Answer
  rollback : σ → σ × Answer
  describe : σ → String
  inTree : σ → Tree → Tree

structure Ran (σ α : Type) where
  session : σ
  journal : Journal
  result : α

end ScriptReplay

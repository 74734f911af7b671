import Mathlib
import ScriptReplay.Proofs.Engine.OpenTransactions

namespace ScriptReplay

namespace Execution

variable {σ : Type} [Session σ]

end Execution

namespace Engine

open Execution

variable {κ ι δ : Type}

namespace Semantics

variable {m : Semantics κ ι δ}

end Semantics

variable [Engine κ]

namespace Semantics

variable {m : Semantics κ ι δ}

namespace Lawful

variable (laws : m.Lawful)

include laws

end Lawful

end Semantics

def threeScripts : List Text :=
  ["CREATE TABLE T (ID INTEGER); insert into t values (1);".toList,
    "DROP TABLE T; INSERT INTO T VALUES (2)".toList, "INSERT INTO T VALUES (3)".toList]

end Engine

end ScriptReplay

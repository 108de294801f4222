import AgentSandbox.Error
import AgentSandbox.Model.Basic

/-!
# Names entered by a user

A user who names a network mode may leave blanks around it and need not mind the case of its
letters, but has to name one of the known modes.
-/

namespace AgentSandbox.NetworkMode

/-- Why a name is not that of a known mode. -/
def unknownReason (name : String) : String :=
  "unknown value '" ++ name ++ "' (expected PUBLIC, VPC, SANDBOX or INTERNAL_SERVICE)"

/-- The known mode that a user's text names. -/
def parse (input : String) : Except Error NetworkMode :=
  match parse? input with
  | some mode => .ok mode
  | none => .error (.invalidArgument "network mode" (unknownReason (normalName input)))

end AgentSandbox.NetworkMode

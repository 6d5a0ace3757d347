import Stencil.Script.Execution

/-!
# Failures that end scripts

What a script comes to is told from the interrupt that ends it and from the latest failure of the
generator: the failure itself, when its text is the one that was thrown, and else a failure of the
script.
-/

namespace Stencil.Script

/-- A script that the latest failure ends has that failure. -/
theorem outcome_failed (failure : Failure) (functions : List String) :
    outcome (.error (.failed failure functions)) (some failure) = .error failure :=
  if_pos rfl

end Stencil.Script

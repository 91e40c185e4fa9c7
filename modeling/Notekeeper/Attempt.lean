import Notekeeper.Fault

/-!
# Attempts

An attempt changes a state and either succeeds with a result or fails with a fault. A failed attempt
leaves whatever it had changed before it failed: nothing is rolled back.
-/

namespace Notekeeper

/-- An action on a state that may fail and then keeps the state it had reached. -/
abbrev Attempt (state result : Type) := EStateM Fault state result

namespace Attempt

/-- An attempt on a part of a state, given by how the part is read and put back. -/
def within {state part result : Type} (read : state → part) (put : part → state → state)
    (attempt : Attempt part result) : Attempt state result := fun whole =>
  match attempt (read whole) with
  | .ok value part => .ok value (put part whole)
  | .error fault part => .error fault (put part whole)

/-- An attempt that fails or gives a value without changing anything. -/
def ofExcept {state result : Type} : Except Fault result → Attempt state result
  | .ok value => pure value
  | .error fault => throw fault

end Attempt

end Notekeeper

import Notekeeper.Number.Decimal

/-!
# Faults

The causes for which an operation on notes, stores, notebooks and exchange packages fails, and the
sentence that each one is reported with.
-/

namespace Notekeeper

/-- Why an operation failed. -/
inductive Fault where
  /-- No note has this id. -/
  | notFound (id : String)
  /-- The snapshot was made before its writer had imported our latest export. -/
  | stale (exportClock importClock : Int)
  /-- The store has no file of its own. -/
  | noPath
  /-- A word stands for nothing known. -/
  | invalidInput (reason : String)
  /-- The disk refused an access, or a file does not hold text. -/
  | disk
  /-- The exchange package is not a readable archive with a snapshot in it. -/
  | package
  deriving DecidableEq, Repr

/-- The sentence a fault is reported with. -/
def Fault.message : Fault → String
  | notFound id => "Note not found: " ++ id
  | stale exportClock importClock =>
      "Cannot import - internal database export lamport clock = " ++ Decimal.write exportClock ++
        ", external database last import lamport clock = " ++ Decimal.write importClock
  | noPath => "Store has no primary path"
  | invalidInput reason => "Invalid input: " ++ reason
  | disk => "IO error"
  | package => "Exchange package error"

end Notekeeper

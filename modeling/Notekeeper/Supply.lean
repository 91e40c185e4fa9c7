import Notekeeper.Calendar.Moment

/-!
# Supplies from outside

What notes need that no computation gives: fresh tokens for ids, share tokens and delimiters, and
readings of the local clock. A supply is a stream of each with the number of items already taken, so
every operation is a function of the supply it is given, and that tokens are distinct and unused is
a property of the stream.
-/

namespace Notekeeper

/-- Streams of tokens and of clock readings, with the number already taken of each. -/
structure Supply where
  tokens : Nat → String
  moments : Nat → Moment
  tokensTaken : Nat
  momentsTaken : Nat

namespace Supply

/-- A token that has not been taken, counted from the next one on. -/
def token (supply : Supply) (ahead : Nat) : String :=
  supply.tokens (supply.tokensTaken + ahead)

/-- The supply after some more tokens have been taken. -/
def dropTokens (supply : Supply) (count : Nat) : Supply :=
  { supply with tokensTaken := supply.tokensTaken + count }

/-- The next reading of the clock. -/
def now (supply : Supply) : Moment :=
  supply.moments supply.momentsTaken

/-- The supply after the clock has been read once more. -/
def afterReading (supply : Supply) : Supply :=
  { supply with momentsTaken := supply.momentsTaken + 1 }

end Supply

end Notekeeper

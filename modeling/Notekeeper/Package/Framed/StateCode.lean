import Notekeeper.Package.Archive.Octets
import Notekeeper.Package.Bits

/-!
# State codes

A state code decodes a symbol from its state alone; bits are then read to get to the next state. Its
table has a power of two of states, of which a symbol has as many as it is frequent. The frequencies
are transmitted with the code (`Frequencies.read?`).

The bits that such codes are fed with are written last one first: a stream is read from its end
backwards, beginning behind the highest bit that is set (`backwards?`).
-/

namespace Notekeeper.Package.Framed

/-! ### Bits -/

/-- A reader of bits, which fails if there are too few. -/
abbrev BitReader := StateT (List Bool) Option

/-- The number with some bits, most significant bit first. -/
def ofBits (bits : List Bool) : Nat :=
  bits.foldl (fun value bit => 2 * value + bit.toNat) 0

namespace BitReader

/-- A number of bits. -/
def take (count : Nat) : BitReader (List Bool) := fun bits =>
  let taken := bits.take count
  if taken.length = count then some (taken, bits.drop count) else none

/-- A number of a width in bits, most significant bit first. -/
def high (width : Nat) : BitReader Nat := do
  return ofBits (← take width)

/-- A number of a width in bits, least significant bit first. -/
def low (width : Nat) : BitReader Nat := do
  return ofBits (← take width).reverse

/-- As many results as are wanted, behind those that are there, which come last first. -/
def repeatedAfter {result : Type} (reader : BitReader result) :
    List result → Nat → BitReader (List result)
  | done, 0 => return done.reverse
  | done, count + 1 => do repeatedAfter reader ((← reader) :: done) count

/-- As many results as are wanted. -/
def repeated {result : Type} (reader : BitReader result) (count : Nat) :
    BitReader (List result) :=
  repeatedAfter reader [] count

end BitReader

/-- The bits of some octets from their beginning. -/
def forwards (octets : List UInt8) : List Bool :=
  octets.flatMap BitOrder.leastFirst.bitsOf

/-- The bits of some octets from their end, behind the highest bit that is set. The last octet must
have such a bit. -/
def backwards? (octets : List UInt8) : Option (List Bool) := do
  let last ← octets.getLast?
  guard (last ≠ 0)
  let bits := octets.reverse.flatMap BitOrder.mostFirst.bitsOf
  return (bits.dropWhile (!·)).drop 1

/-! ### Frequencies -/

/-- How frequent the symbols of a code are. -/
structure Frequencies where
  /-- The number of states is this power of two. -/
  log : Nat
  /-- The number of states for each symbol from zero on; −1 stands for a single state at the end of
  the table. -/
  counts : List Int
  deriving DecidableEq, Repr

namespace Frequencies

/-- The least exponent that can be transmitted. -/
def leastLog : Nat := 5

/-- How many states a count takes. -/
def weight (count : Int) : Nat :=
  count.natAbs

/-- A count, if the counts still to come may be anything below a bound. Small values are written
with one bit less where the bound leaves some over. -/
def readCount (bound : Nat) : BitReader Nat := do
  let width := Nat.log2 bound
  let spare := 2 * Nat.pow 2 width - 1 - bound
  let lower ← BitReader.low width
  if lower < spare then return lower
  else
    let value := lower + Nat.pow 2 width * (← BitReader.low 1)
    return if value < Nat.pow 2 width then value else value - spare

/-- The number of further zeros after a zero: two bits at a time, which go on as long as they are
3. -/
def readZeros : Nat → BitReader Nat
  | 0 => return 0
  | left + 1 => do
      let more ← BitReader.low 2
      if more = 3 then return 3 + (← readZeros left) else return more

/-- Counts up to the one that takes the last of the states left. `done` holds those read, last
first; there may be a number of them at most. -/
def readCounts (limit : Nat) : Nat → Nat → List Int → BitReader (List Int)
  | _, 0, done => if done.length ≤ limit then return done.reverse else failure
  | 0, _ + 1, _ => failure
  | left + 1, states + 1, done => do
      if limit ≤ done.length then failure
      let count : Int := (← readCount (states + 2)) - 1
      let done := count :: done
      let zeros ← if count = 0 then readZeros limit else pure 0
      readCounts limit left (states + 1 - weight count) (List.replicate zeros 0 ++ done)

/-- The frequencies at the beginning of some octets and the octets behind them. There are a greatest
symbol and a greatest exponent. -/
def read? (maxSymbol maxLog : Nat) (octets : List UInt8) : Option (Frequencies × List UInt8) := do
  let bits := forwards octets
  let (excess, rest) ← (BitReader.low 4).run bits
  let log := leastLog + excess
  guard (log ≤ maxLog)
  let (counts, rest) ←
    (readCounts (maxSymbol + 1) (maxSymbol + 1) (Nat.pow 2 log) []).run rest
  return (⟨log, counts⟩, octets.drop ((bits.length - rest.length + 7) / 8))

end Frequencies

/-! ### Tables -/

/-- A state: the symbol it stands for, and the number of bits that lead to the next state, counted
from a base. -/
structure CodeState where
  symbol : Nat
  width : Nat
  base : Nat
  deriving DecidableEq, Repr, Inhabited

/-- A state code. -/
structure StateCode where
  /-- The number of bits that tell the first state. -/
  log : Nat
  states : Array CodeState
  deriving DecidableEq, Repr

namespace StateCode

/-- The code of a single symbol, which takes no bits. -/
def constant (symbol : Nat) : StateCode :=
  ⟨0, #[⟨symbol, 0, 0⟩]⟩

/-- The places below a limit in a table of a size, in the order in which common symbols take them.
The step from one to the next is odd, so that all places come about. -/
def places (size limit : Nat) : List Nat :=
  ((List.range size).map fun turn => turn * (size / 2 + size / 8 + 3) % size).filter (· < limit)

/-- The symbols of all states. Those with a single state at the end stand there, the first of them
last; the others are scattered over the rest. -/
def symbolTable (frequencies : Frequencies) : Array Nat :=
  let size := Nat.pow 2 frequencies.log
  let counted := frequencies.counts.zipIdx
  let rare := counted.filterMap fun (count, symbol) => if count = -1 then some symbol else none
  let common := counted.flatMap fun (count, symbol) => List.replicate count.toNat symbol
  let limit := size - rare.length
  let blank := (List.replicate limit 0 ++ rare.reverse).toArray
  ((places size limit).zip common).foldl
    (fun table (place, symbol) => table.setIfInBounds place symbol) blank

/-- The states in order, with the number of states that each symbol has had so far. The states of a
symbol share out all states evenly among them. -/
def numbered (log : Nat) : List Nat → Array Nat → Array CodeState → Array CodeState
  | [], _, states => states
  | symbol :: symbols, counters, states =>
      let counter := counters.getD symbol 1
      let width := log - Nat.log2 counter
      numbered log symbols (counters.setIfInBounds symbol (counter + 1))
        (states.push ⟨symbol, width, counter * Nat.pow 2 width - Nat.pow 2 log⟩)

/-- The code of some frequencies. -/
def ofFrequencies (frequencies : Frequencies) : StateCode :=
  let counters := (frequencies.counts.map Frequencies.weight).toArray
  ⟨frequencies.log, numbered frequencies.log (symbolTable frequencies).toList counters #[]⟩

/-- The state of a number. -/
def state (code : StateCode) (number : Nat) : CodeState :=
  code.states.getD number default

/-- The first state. -/
def first (code : StateCode) : BitReader CodeState := do
  return code.state (← BitReader.high code.log)

/-- The state after another one. -/
def next (code : StateCode) (current : CodeState) : BitReader CodeState := do
  return code.state (current.base + (← BitReader.high current.width))

end StateCode

end Notekeeper.Package.Framed

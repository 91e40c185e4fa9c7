import Notekeeper.Package.Huffman

/-!
# Compressed data bit by bit

A decoder reads the octets of compressed data bit by bit and puts out the octets that they stand
for. Formats differ in which bit of an octet comes first.

Compressed data come in portions, and what is decoded goes out in portions too. A decoder stops
where it finds its data corrupt, and the portion that it was working on is lost; all that it has
handed on before remains (`Decoded.content`). Where the data merely end too early, everything
decoded remains.
-/

namespace Notekeeper.Package

/-- Why decoding stopped before the end of the data. -/
inductive Stop where
  /-- The data end too early. -/
  | exhausted
  /-- The data are not in the format. -/
  | corrupt
  deriving DecidableEq, Repr

/-- Which bit of an octet comes first. -/
inductive BitOrder where
  | leastFirst
  | mostFirst
  deriving DecidableEq, Repr

/-- The bits of an octet in an order. -/
def BitOrder.bitsOf (order : BitOrder) (octet : UInt8) : List Bool :=
  let bits := (List.range 8).map fun index => octet.toNat.testBit index
  match order with
  | leastFirst => bits
  | mostFirst => bits.reverse

/-- The number of octets that go out at a time. -/
def portionSize : Nat := 8192

/-- The data still to be read and the octets put out so far. -/
structure Unpacking where
  /-- The bits left of the octet being read, the next one first. -/
  bits : List Bool
  octets : List UInt8
  /-- The number of octets that come in at a time. -/
  fetchSize : Nat
  /-- The number of octets begun to be read. -/
  taken : Nat
  output : Array UInt8
  /-- How many octets of the output have been handed on. -/
  handedOn : Nat

/-- Whether all octets that have come in have been taken. -/
def Unpacking.needsFetch (state : Unpacking) : Bool :=
  state.octets.isEmpty || state.taken % state.fetchSize == 0

/-- A step of decoding. -/
abbrev Unpacker := EStateM Stop Unpacking

/-- What some compressed data decode to. -/
structure Decoded where
  /-- The octets that the decoder handed on. -/
  content : ByteArray
  /-- Whether the decoder came to the end of the data. -/
  isComplete : Bool

namespace Unpacker

/-- All output is handed on. -/
def handOn : Unpacker Unit :=
  modify fun state => { state with handedOn := state.output.size }

/-- The next octet, all of whose bits are still to be read. Output is handed on before more octets
come in. -/
def octet : Unpacker UInt8 := do
  if (← get).needsFetch then handOn
  let state ← get
  match state.octets with
  | octet :: octets =>
      set { state with octets := octets, taken := state.taken + 1 }
      return octet
  | [] => throw .exhausted

/-- The next bit. -/
def bit (order : BitOrder) : Unpacker Bool := do
  match (← get).bits with
  | bit :: bits =>
      modify fun state => { state with bits := bits }
      return bit
  | [] =>
      let bits := order.bitsOf (← octet)
      modify fun state => { state with bits := bits.tail }
      return bits.headD false

/-- The rest of a symbol, of which at most a number of bits are left. -/
def symbolWithin (order : BitOrder) : Nat → Code.Search → Unpacker Nat
  | _, .found symbol => return symbol
  | 0, _ => throw .corrupt
  | _ + 1, .missing => throw .corrupt
  | left + 1, search => do symbolWithin order left (search.step (← bit order))

/-- The next symbol of a code. -/
def symbol (order : BitOrder) (code : Code) : Unpacker Nat :=
  symbolWithin order code.maxLength code.start

/-- One octet is put out. -/
def emit (octet : UInt8) : Unpacker Unit :=
  modify fun state => { state with output := state.output.push octet }

/-- What compressed data decode to, with the number of octets that come in at a time. -/
def decode (unpacker : Unpacker Unit) (fetchSize : Nat) (compressed : List UInt8) : Decoded :=
  match unpacker ⟨[], compressed, fetchSize, 0, #[], 0⟩ with
  | .ok () state => ⟨⟨state.output⟩, true⟩
  | .error .exhausted state => ⟨⟨state.output⟩, false⟩
  | .error .corrupt state => ⟨⟨state.output.extract 0 state.handedOn⟩, false⟩

end Unpacker

end Notekeeper.Package

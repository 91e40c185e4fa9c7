/-!
# Numbers in octets

Archives hold numbers of two, four or eight octets, least significant octet first, at places that
other numbers tell.
-/

namespace Notekeeper.Package

/-- The number in some octets, least significant octet first. -/
def littleEndian : List UInt8 → Nat
  | [] => 0
  | octet :: rest => octet.toNat + 256 * littleEndian rest

/-- A number in a number of octets, least significant octet first. -/
def toLittleEndian : Nat → Nat → List UInt8
  | 0, _ => []
  | width + 1, number => (number % 256).toUInt8 :: toLittleEndian width (number / 256)

/-- A number of octets at an offset, `none` if there are too few. -/
def octetsAt? (octets : ByteArray) (offset width : Nat) : Option (List UInt8) :=
  if offset + width ≤ octets.size then some (octets.extract offset (offset + width)).toList
  else none

/-- The number at an offset. -/
def numberAt? (octets : ByteArray) (offset width : Nat) : Option Nat :=
  (octetsAt? octets offset width).map littleEndian

/-- The number in the first octets and the octets behind it, `none` if there are too few. -/
def splitNumber? (width : Nat) (octets : List UInt8) : Option (Nat × List UInt8) :=
  let taken := octets.take width
  if taken.length = width then some (littleEndian taken, octets.drop width) else none

end Notekeeper.Package

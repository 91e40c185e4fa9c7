/-!
# Checksums

The cyclic redundancy check of 32 bits that archives carry for each of their files, with the
reflected polynomial `0xEDB88320`.
-/

namespace Notekeeper.Package

/-- One bit is shifted out of a remainder. -/
def shiftBit (remainder : UInt32) : UInt32 :=
  if remainder &&& 1 == 1 then (remainder >>> 1) ^^^ 0xEDB88320 else remainder >>> 1

/-- A number of bits are shifted out of a remainder. -/
def shiftBits : Nat → UInt32 → UInt32
  | 0, remainder => remainder
  | count + 1, remainder => shiftBits count (shiftBit remainder)

/-- The remainder after one more octet. -/
def addOctet (remainder : UInt32) (octet : UInt8) : UInt32 :=
  shiftBits 8 (remainder ^^^ octet.toUInt32)

/-- The checksum of some octets. -/
def checksum (octets : ByteArray) : UInt32 :=
  octets.foldl addOctet 0xFFFFFFFF ^^^ 0xFFFFFFFF

end Notekeeper.Package

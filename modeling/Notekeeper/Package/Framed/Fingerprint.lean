/-!
# Fingerprints

The hash of 64 bits that frames end with, of which they keep the lower half. The octets are taken in
stripes of four lanes of 64 bits each; what is left after the last whole stripe is mixed in after
the lanes have been joined.
-/

namespace Notekeeper.Package.Framed

/-- The odd constants that the lanes are multiplied with. -/
def prime1 : UInt64 := 0x9E3779B185EBCA87

@[inherit_doc prime1]
def prime2 : UInt64 := 0xC2B2AE3D27D4EB4F

@[inherit_doc prime1]
def prime3 : UInt64 := 0x165667B19E3779F9

@[inherit_doc prime1]
def prime4 : UInt64 := 0x85EBCA77C2B2AE63

@[inherit_doc prime1]
def prime5 : UInt64 := 0x27D4EB2F165667C5

/-- A word turned left by a number of bits between 1 and 63. -/
def turned (word count : UInt64) : UInt64 :=
  (word <<< count) ||| (word >>> (64 - count))

/-- The word in a number of octets from an offset on, least significant octet first. -/
def wordAt (octets : Array UInt8) (offset : Nat) : Nat → UInt64
  | 0 => 0
  | width + 1 =>
      (octets.getD offset 0).toUInt64 ||| (wordAt octets (offset + 1) width <<< 8)

/-- A lane after one more word. -/
def mixLane (lane word : UInt64) : UInt64 :=
  turned (lane + word * prime2) 31 * prime1

/-- The four lanes. -/
structure Lanes where
  first : UInt64 := prime1 + prime2
  second : UInt64 := prime2
  third : UInt64 := 0
  fourth : UInt64 := 0 - prime1

/-- The lanes after the stripe at an offset. -/
def Lanes.mix (lanes : Lanes) (octets : Array UInt8) (offset : Nat) : Lanes where
  first := mixLane lanes.first (wordAt octets offset 8)
  second := mixLane lanes.second (wordAt octets (offset + 8) 8)
  third := mixLane lanes.third (wordAt octets (offset + 16) 8)
  fourth := mixLane lanes.fourth (wordAt octets (offset + 24) 8)

/-- The lanes after a number of stripes. -/
def Lanes.mixAll (octets : Array UInt8) (offset : Nat) : Nat → Lanes → Lanes
  | 0, lanes => lanes
  | count + 1, lanes => mixAll octets (offset + 32) count (lanes.mix octets offset)

/-- A joined lane. -/
def joinLane (sum lane : UInt64) : UInt64 :=
  (sum ^^^ mixLane 0 lane) * prime1 + prime4

/-- The lanes joined to one word. -/
def Lanes.joined (lanes : Lanes) : UInt64 :=
  let sum :=
    turned lanes.first 1 + turned lanes.second 7 + turned lanes.third 12 + turned lanes.fourth 18
  joinLane (joinLane (joinLane (joinLane sum lanes.first) lanes.second) lanes.third) lanes.fourth

/-- A word with the octets from an offset on mixed in: eight at a time, then four, then each. -/
def mixRest (octets : Array UInt8) (offset : Nat) (word : UInt64) : Nat → UInt64
  | 0 => word
  | left + 1 =>
      if offset + 8 ≤ octets.size then
        mixRest octets (offset + 8)
          (turned (word ^^^ mixLane 0 (wordAt octets offset 8)) 27 * prime1 + prime4) left
      else if offset + 4 ≤ octets.size then
        mixRest octets (offset + 4)
          (turned (word ^^^ (wordAt octets offset 4 * prime1)) 23 * prime2 + prime3) left
      else if offset < octets.size then
        mixRest octets (offset + 1)
          (turned (word ^^^ (wordAt octets offset 1 * prime5)) 11 * prime1) left
      else word

/-- The bits of a word spread over all of it. -/
def spread (word : UInt64) : UInt64 :=
  let word := (word ^^^ (word >>> 33)) * prime2
  let word := (word ^^^ (word >>> 29)) * prime3
  word ^^^ (word >>> 32)

/-- The fingerprint of some octets. -/
def fingerprint (octets : Array UInt8) : UInt64 :=
  let stripes := octets.size / 32
  let start := if stripes = 0 then prime5 else (Lanes.mixAll octets 0 stripes {}).joined
  spread (mixRest octets (32 * stripes) (start + octets.size.toUInt64) 32)

end Notekeeper.Package.Framed

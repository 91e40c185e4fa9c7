/-!
# Octets as text

A file holds octets. `decode?` reads them as text and refuses octets that are not UTF-8;
`decodeLossy` reads any octets and puts the replacement character in the place of each stretch that
belongs to no character.
-/

namespace Notekeeper.Text

/-- The text that some octets encode, `none` if they encode none. -/
def decode? (octets : ByteArray) : Option String :=
  String.fromUTF8? octets

/-- The octets of a text. -/
def encode (text : String) : ByteArray :=
  text.toUTF8

/-- For the first octet of a character of more than one octet: the number of continuation octets,
and the range of the first of them. -/
def continuations? (octet : UInt8) : Option (Nat × UInt8 × UInt8) :=
  if 0xC2 ≤ octet && octet ≤ 0xDF then some (1, 0x80, 0xBF)
  else if octet == 0xE0 then some (2, 0xA0, 0xBF)
  else if octet == 0xED then some (2, 0x80, 0x9F)
  else if 0xE1 ≤ octet && octet ≤ 0xEF then some (2, 0x80, 0xBF)
  else if octet == 0xF0 then some (3, 0x90, 0xBF)
  else if octet == 0xF4 then some (3, 0x80, 0x8F)
  else if 0xF1 ≤ octet && octet ≤ 0xF3 then some (3, 0x80, 0xBF)
  else none

/-- The octets, at most `count`, that continue a character begun before; the range is that of the
next one, and those after it are plain continuation octets. -/
def continuing : Nat → UInt8 → UInt8 → List UInt8 → List UInt8
  | 0, _, _, _ => []
  | _ + 1, _, _, [] => []
  | count + 1, low, high, octet :: rest =>
      if low ≤ octet && octet ≤ high then octet :: continuing count 0x80 0xBF rest else []

/-- The code point of a leading octet and all its continuation octets. -/
def codePoint (lead : UInt8) (tail : List UInt8) : Nat :=
  let high :=
    match tail.length with
    | 1 => lead.toNat % 32
    | 2 => lead.toNat % 16
    | _ => lead.toNat % 8
  tail.foldl (fun value octet => 64 * value + octet.toNat % 64) high

/-- The characters of some octets, with the replacement character for each longest beginning of a
character that is not continued, and for each octet that begins none. -/
def decodeOctets : List UInt8 → List Char
  | [] => []
  | octet :: rest =>
      if octet < 0x80 then Char.ofNat octet.toNat :: decodeOctets rest
      else
        match continuations? octet with
        | none => '\uFFFD' :: decodeOctets rest
        | some (count, low, high) =>
            let tail := continuing count low high rest
            (if tail.length == count then Char.ofNat (codePoint octet tail) else '\uFFFD') ::
              decodeOctets (rest.drop tail.length)
  termination_by octets => octets.length
  decreasing_by all_goals simp; try omega

/-- The text of some octets, whatever they are. -/
def decodeLossy (octets : ByteArray) : String :=
  String.ofList (decodeOctets octets.toList)

end Notekeeper.Text

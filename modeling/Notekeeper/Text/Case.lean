import Notekeeper.Text.Property.CaseMap
import Notekeeper.Text.Property.Cased

/-!
# Letter case

Lower-casing and upper-casing after the Unicode case mappings. A single character may map to
several (`lowerChar`, `upperChar`). Lower-casing a whole text (`lower`) has one rule that looks at
the neighbours: a capital sigma at the end of a word becomes the final small sigma.
-/

namespace Notekeeper.Text

/-- The lower-case form of one character, without regard to its neighbours. -/
def lowerChar (char : Char) : List Char :=
  if char.toNat < 128 then [char.toLower]
  else if char = 'İ' then ['i', '\u0307']
  else [(Property.lowerRuns.findSome? fun run => run.map? char).getD char]

/-- The upper-case form of one character. -/
def upperChar (char : Char) : List Char :=
  if char.toNat < 128 then [char.toUpper]
  else
    match Property.upperExpansions.find? fun entry => entry.1 == char.toNat with
    | some (_, codes) => codes.map Char.ofNat
    | none => [(Property.upperRuns.findSome? fun run => run.map? char).getD char]

/-- Whether a character is a letter that has case. -/
def isCased (char : Char) : Bool :=
  if char.toNat < 128 then char.isAlpha else Property.cased.has char

/-- Whether a character is passed over when a word is looked for. -/
def isCaseIgnorable (char : Char) : Bool :=
  Property.caseIgnorable.has char

/-- Whether the nearest character that is not passed over is a cased letter. -/
def meetsCased (text : List Char) : Bool :=
  (text.dropWhile isCaseIgnorable).head?.any isCased

/-- Lower-casing of what follows `before`, which is given last character first. -/
def lowerAfter (before : List Char) : List Char → List Char
  | [] => []
  | char :: rest =>
      (if char = 'Σ' then [if meetsCased before && !meetsCased rest then 'ς' else 'σ']
        else lowerChar char) ++ lowerAfter (char :: before) rest

/-- The lower-case form of a text. -/
def lower (text : List Char) : List Char :=
  lowerAfter [] text

/-- `lower` on strings. -/
def lowercase (text : String) : String :=
  String.ofList (lower text.toList)

/-- The upper-case form of a text, character by character. -/
def uppercase (text : String) : String :=
  String.ofList (text.toList.flatMap upperChar)

end Notekeeper.Text

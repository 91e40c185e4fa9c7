import Notekeeper.Text.Quoted

/-!
# Query tokens

A query is read from left to right into tokens: texts to search for, marks that open and close a
group, operators between groups, and prefixes that choose what of a note a text is matched with.
`tokenize` accepts every query; whether the tokens make sense is decided where the query tree is
built.

Inside a text everything counts as text until the closing mark that the innermost open group awaits.
Operators, prefixes and opening marks are recognised only where no text has begun, and spaces and
tabs are skipped only there. An operator is recognised by its letters alone, so a text that begins
with such letters loses them.
-/

namespace Notekeeper.Query

/-- The operators that join two groups. -/
inductive Operator where
  | and
  | or
  deriving DecidableEq, Repr

/-- The word an operator is written as. -/
def Operator.word : Operator → String
  | and => "and"
  | or => "or"

/-- What of a note a text is matched with. -/
inductive Aspect where
  | fulltext
  | folder
  | tag
  deriving DecidableEq, Repr

/-- The prefix that selects an aspect. -/
def Aspect.marker : Aspect → String
  | fulltext => "fulltext:"
  | folder => "folder:"
  | tag => "tag:"

/-- A unit of a query. -/
inductive Token where
  /-- A text to search for. -/
  | text (string : String)
  /-- An opening parenthesis or quotation mark. -/
  | opening (mark : Char)
  /-- The mark that closes a group. -/
  | closing (mark : Char)
  /-- An operator. -/
  | operator (joiner : Operator)
  /-- A prefix. -/
  | aspect (chosen : Aspect)
  deriving DecidableEq, Repr

/-- The token in words, for reports on how a query was understood. -/
def Token.describe : Token → String
  | text string => "SEARCH_STRING " ++ Text.quoted string
  | opening mark => "OPENING " ++ String.ofList [mark]
  | closing mark => "CLOSING " ++ String.ofList [mark]
  | operator joiner => "OPERATOR " ++ joiner.word
  | aspect chosen => "SEARCH_TYPE " ++ chosen.marker

/-- The words recognised where no text has begun, with their tokens, in order of precedence. -/
def keywords : List (List Char × Token) :=
  [("and".toList, .operator .and), ("or".toList, .operator .or),
    ("fulltext:".toList, .aspect .fulltext), ("folder:".toList, .aspect .folder),
    ("tag:".toList, .aspect .tag)]

/-- The keyword a text begins with, and its token. -/
def keyword? (text : List Char) : Option (List Char × Token) :=
  keywords.find? fun entry => entry.1.isPrefixOf text

/-- The mark that closes a group opened by this mark, for the marks that open one. -/
def closingMark? (mark : Char) : Option Char :=
  if mark = '(' then some ')'
  else if mark = '"' || mark = '\'' then some mark
  else none

/-- Where the reader of a query stands. -/
structure Scanner where
  /-- The closing marks awaited, innermost first. -/
  awaiting : List Char
  /-- The characters of the text being read, last first; `none` where no text has begun. -/
  reading : Option (List Char)
  /-- The number of characters to pass over, which belong to a keyword already recognised. -/
  passing : Nat
  deriving DecidableEq, Repr

/-- The reader before the first character. -/
def Scanner.start : Scanner := ⟨[], none, 0⟩

/-- The text read so far as a token; an empty text gives none. -/
def Scanner.pending (scanner : Scanner) : List Token :=
  match scanner.reading with
  | some (char :: read) => [.text (String.ofList (char :: read).reverse)]
  | _ => []

/-- The tokens completed by one character, and the reader behind it. `rest` is what follows the
character, to which a keyword may extend. -/
def Scanner.next (scanner : Scanner) (char : Char) (rest : List Char) : List Token × Scanner :=
  if scanner.passing ≠ 0 then ([], { scanner with passing := scanner.passing - 1 })
  else if scanner.awaiting.head? = some char then
    (scanner.pending ++ [.closing char], ⟨scanner.awaiting.tail, none, 0⟩)
  else
    match scanner.reading with
    | some read => ([], { scanner with reading := some (char :: read) })
    | none =>
        if char = ' ' || char = '\t' then ([], scanner)
        else
          match keyword? (char :: rest) with
          | some (word, token) => ([token], { scanner with passing := word.length - 1 })
          | none =>
              match closingMark? char with
              | some mark =>
                  ([.opening char],
                    ⟨mark :: scanner.awaiting, if char = '(' then none else some [], 0⟩)
              | none => ([], { scanner with reading := some [char] })

/-- The tokens of the rest of a query. -/
def Scanner.run (scanner : Scanner) : List Char → List Token
  | [] => scanner.pending
  | char :: rest =>
      let step := scanner.next char rest
      step.1 ++ step.2.run rest

/-- The tokens of a query. -/
def tokenize (query : String) : List Token :=
  Scanner.start.run query.toList

end Notekeeper.Query

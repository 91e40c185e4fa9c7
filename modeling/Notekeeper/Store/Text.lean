import Notekeeper.Note.Record
import Notekeeper.Store.Basic

/-!
# Stores as text

The text of a store is a header with two clocks and the records of its notes in the order of their
ids. `Store.text` writes it, `Store.read` adds what a text holds to a store.

Reading cuts the text into records by itself (`Block.step`): a record begins with its opening line
and ends with the closing line that names its id, and nothing inside its body is looked at but the
line that ends the body. A record that is never closed or cannot be read is skipped. Between records
the clocks of the header are recognised; all other lines there are ignored.
-/

namespace Notekeeper

namespace Store

/-- The keyword of the clock at the last export. -/
def exportClockWord : String := "EXPORT-LAMPORT-CLOCK"

/-- The keyword of the clock after the last import. -/
def importClockWord : String := "LAST-IMPORT-LAMPORT-CLOCK"

/-- The lines of the header, each with its line feed. -/
def header (store : Store) : String :=
  Record.line exportClockWord (Decimal.write store.exportClock) ++ "\n" ++
    (Record.line importClockWord (Decimal.write store.importClock) ++ "\n")

/-- The header of the store over the records of some notes. -/
def textOf (store : Store) (notes : List Note) : String :=
  store.header ++ "".intercalate (notes.map fun note => note.record ++ "\n\n")

/-- The text of the store. -/
def text (store : Store) : String :=
  store.textOf store.all

/-- The notes that were touched, in the order of their ids. -/
def touchedNotes (store : Store) : List Note :=
  store.touched.toList.filterMap store.get?

/-- The text of the touched notes alone, under the header of the store. -/
def touchedText (store : Store) : String :=
  store.textOf store.touchedNotes

end Store

/-- A record that has been opened. -/
structure Block where
  /-- The lines so far, last first. -/
  lines : List String
  /-- The id, once a line has given one that is not empty. -/
  id : Option String
  /-- The delimiter of the body while the body is open. -/
  openBody : Option String
  /-- Whether a body has been closed. -/
  bodyClosed : Bool
  deriving DecidableEq, Repr

namespace Block

/-- A record of which only the opening line has been read. -/
def opened : Block := ⟨[Record.opening], none, none, false⟩

/-- The lines of the record as a text. -/
def text (block : Block) : String :=
  Text.join "\n" block.lines.reverse

/-- One more line, and whether it closes the record. -/
def step (block : Block) (line : String) : Block × Bool :=
  let entry := Record.Entry.ofLine line
  let block := { block with lines := line :: block.lines }
  match block.openBody with
  | some delimiter =>
      if entry.closesBody delimiter then
        ({ block with openBody := none, bodyClosed := true }, false)
      else (block, false)
  | none =>
      match block.id with
      | none =>
          if entry.key = Record.Key.id.word then
            ({ block with id := entry.word?.filter fun word => !word.isEmpty }, false)
          else if entry.key = Record.bodyOpening ∧ !block.bodyClosed then
            ({ block with openBody := some entry.word }, false)
          else (block, false)
      | some id =>
          if entry.key = Record.bodyOpening ∧ !block.bodyClosed then
            ({ block with openBody := some entry.word }, false)
          else (block, entry.key == Record.closing && entry.word? == some id)

end Block

/-- A store into which a text is being read. -/
structure Loading where
  store : Store
  supply : Supply
  /-- The record being read, if one is open. -/
  block : Option Block
  /-- The ids of the notes read so far, last first. -/
  ids : List String

namespace Loading

/-- A line outside every record: it may set a clock of the header or open a record. -/
def between (loading : Loading) (line : String) : Loading :=
  let entry := Record.Entry.ofLine line
  let clock := entry.word?.bind Decimal.read?
  if entry.key = Store.exportClockWord then
    { loading with
      store := { loading.store with exportClock := clock.getD loading.store.exportClock } }
  else if entry.key = Store.importClockWord then
    { loading with
      store := { loading.store with importClock := clock.getD loading.store.importClock } }
  else if line = Record.opening then { loading with block := some Block.opened }
  else loading

/-- A record that has been closed: its note is put into the store, if it can be read. -/
def restore (loading : Loading) (block : Block) : Loading :=
  let read := Note.ofRecord? (Note.blank loading.supply) block.text
  let loading := { loading with block := none, supply := loading.supply.afterBlank }
  match read with
  | some note => { loading with store := loading.store.restore note, ids := note.id :: loading.ids }
  | none => loading

/-- One more line. -/
def step (loading : Loading) (line : String) : Loading :=
  match loading.block with
  | none => loading.between line
  | some block =>
      match block.step line with
      | (block, false) => { loading with block := some block }
      | (block, true) => loading.restore block

end Loading

namespace Store

/-- The store with what a text holds put in, the supply left, and the ids of the notes read. -/
def read (store : Store) (supply : Supply) (text : String) : Store × Supply × List String :=
  let loading := (Text.lines text).foldl Loading.step ⟨store, supply, none, []⟩
  (loading.store, loading.supply, loading.ids.reverse)

end Store

end Notekeeper

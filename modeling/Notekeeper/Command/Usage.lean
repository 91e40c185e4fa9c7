import Notekeeper.Text.Lines

/-!
# The grammar of a command line

A command line is a tree of commands, each with switches, operands and further commands (`Grammar`).
`Grammar.read` reads the arguments from left to right. A switch may take a value, which is attached
to it or comes as the next argument. The value of the next argument is looked at only when the
switch is settled: when something else has been recognised, or at the end. So a later argument that
is unknown is reported before an earlier value that is bad.

An argument `--` turns everything after it into operands; an operand may do the same.
-/

namespace Notekeeper.Usage

/-- Why reading the arguments ends without a command to run. -/
inductive Stop where
  /-- Help was asked for. -/
  | help
  /-- The version was asked for. -/
  | version
  /-- A command is needed that is not there. -/
  | missingCommand
  /-- An operand is needed that is not there. -/
  | missingArgument
  | unknownCommand
  | unknownArgument
  /-- A switch stands without its value. -/
  | missingValue
  /-- A value is none of the words to choose from. -/
  | unknownChoice
  /-- A value is not of its kind. -/
  | malformedValue
  /-- A value is attached to a switch that takes none. -/
  | unwantedValue
  /-- A switch is given twice. -/
  | repeated
  deriving DecidableEq, Repr

/-- What a switch takes. -/
inductive Arity where
  /-- Nothing; it may be given once. -/
  | flag
  /-- A value; it may be given once. -/
  | single
  /-- Values with commas between them; it may be given repeatedly. -/
  | many
  /-- Nothing; it ends the reading. -/
  | stop (reason : Stop)
  deriving DecidableEq, Repr

/-- A switch. -/
structure Switch where
  name : String
  letter? : Option Char
  arity : Arity
  /-- Why a value is refused, if it is. -/
  check : String → Option Stop

/-- An operand. -/
structure Operand where
  isRequired : Bool
  /-- Whether all further operands belong to it. -/
  isMany : Bool
  /-- Whether all that follows it is an operand. -/
  endsSwitches : Bool
  deriving DecidableEq, Repr

/-- The arguments of a command. -/
inductive Grammar where
  | node (switches : List Switch) (operands : List Operand) (needsCommand : Bool)
      (commands : List (String × Grammar))

namespace Grammar

/-- The switches of a command. -/
def switches : Grammar → List Switch
  | node switches _ _ _ => switches

/-- The operands of a command. -/
def operands : Grammar → List Operand
  | node _ operands _ _ => operands

/-- Whether a further command must follow. -/
def needsCommand : Grammar → Bool
  | node _ _ needsCommand _ => needsCommand

/-- The further commands. -/
def commands : Grammar → List (String × Grammar)
  | node _ _ _ commands => commands

/-- The further command of a name. -/
def command? (grammar : Grammar) (name : String) : Option Grammar :=
  (grammar.commands.find? fun entry => entry.1 == name).map Prod.snd

/-- The command that every command with further ones has: it asks for help on one of them. -/
def helpCommand : String := "help"

/-- Whether an argument asks for help on a further command. -/
def asksForHelp (grammar : Grammar) (argument : String) : Bool :=
  !grammar.commands.isEmpty && argument == helpCommand

/-- What asking for help on a command comes to. -/
def helpOn (grammar : Grammar) : List String → Stop
  | [] => .help
  | name :: names =>
      match grammar.command? name with
      | some inner => inner.helpOn names
      | none => if grammar.asksForHelp name && names.isEmpty then .help else .unknownCommand

/-- The operand at a position. -/
def operandAt? (grammar : Grammar) (position : Nat) : Option Operand :=
  match grammar.operands[position]? with
  | some operand => some operand
  | none => grammar.operands.getLast?.filter Operand.isMany

/-- What an argument comes to where no operand is wanted. -/
def surplus (grammar : Grammar) (onlyOperands : Bool) (argument : String) : Stop :=
  if grammar.commands.isEmpty then .unknownArgument
  else if onlyOperands && ((grammar.command? argument).isSome || grammar.asksForHelp argument) then
    .unknownArgument
  else .unknownCommand

end Grammar

/-- The arguments of a command as they have been given. -/
structure Level where
  /-- The name of the command. -/
  name : String
  /-- The values of the switches that were given, by the names of the switches. -/
  switches : List (String × List String)
  operands : List String
  deriving DecidableEq, Repr

namespace Level

/-- Whether a switch was given. -/
def has (level : Level) (name : String) : Bool :=
  level.switches.any fun entry => entry.1 == name

/-- All values of a switch. -/
def values (level : Level) (name : String) : List String :=
  (level.switches.filter fun entry => entry.1 == name).flatMap Prod.snd

/-- The value of a switch. -/
def value? (level : Level) (name : String) : Option String :=
  (level.values name).head?

end Level

/-- The arguments of a command of which some have been read. -/
structure Reading where
  /-- A switch that is not settled, with its value if it has come. -/
  pending : Option (Switch × Option String) := none
  /-- Whether everything that follows is an operand. -/
  onlyOperands : Bool := false
  switches : List (String × List String) := []
  operands : List String := []

namespace Reading

/-- A switch is recorded with what it was given. -/
def record (reading : Reading) (switch : Switch) (values : List String) : Except Stop Reading :=
  let values :=
    match switch.arity with
    | .many => values.flatMap (Text.splitAt ',')
    | _ => values
  let isRepeated := reading.switches.any fun entry => entry.1 == switch.name
  if switch.arity ≠ .many ∧ isRepeated then .error .repeated
  else
    match values.findSome? switch.check with
    | some reason => .error reason
    | none => .ok { reading with switches := reading.switches ++ [(switch.name, values)] }

/-- The switch that is not settled is settled. -/
def settle (reading : Reading) : Except Stop Reading :=
  match reading.pending with
  | none => .ok reading
  | some (_, none) => .error .missingValue
  | some (switch, some value) => { reading with pending := none }.record switch [value]

/-- A switch is met, perhaps with a value attached. -/
def meet (reading : Reading) (switch : Switch) (value? : Option String) : Except Stop Reading :=
  match switch.arity, value? with
  | .flag, some _ | .stop _, some _ => .error .unwantedValue
  | .flag, none => do (← reading.settle).record switch []
  | .stop reason, none => do
      let _ ← reading.settle
      throw reason
  | _, some value => do (← reading.settle).record switch [value]
  | _, none => return { ← reading.settle with pending := some (switch, none) }

/-- A switch given by its name, perhaps with a value behind an equals sign. -/
def takeName (grammar : Grammar) (reading : Reading) (text : List Char) : Except Stop Reading :=
  let (name, value?) :=
    match Text.cut? ['='] text with
    | some (name, value) => (String.ofList name, some (String.ofList value))
    | none => (String.ofList text, none)
  match grammar.switches.find? fun switch => switch.name == name with
  | some switch => reading.meet switch value?
  | none => .error .unknownArgument

/-- Switches given by their letters. The first that takes a value takes the rest as its value,
without an equals sign before it. -/
def takeLetters (grammar : Grammar) (reading : Reading) : List Char → Except Stop Reading
  | [] => .ok reading
  | letter :: rest =>
      match grammar.switches.find? fun switch => switch.letter? == some letter with
      | none => .error .unknownArgument
      | some switch =>
          if switch.arity = .single ∨ switch.arity = .many then
            match rest with
            | [] => reading.meet switch none
            | '=' :: value => reading.meet switch (some (String.ofList value))
            | value => reading.meet switch (some (String.ofList value))
          else do
            (← reading.meet switch none).takeLetters grammar rest

/-- An operand. -/
def takeOperand (grammar : Grammar) (reading : Reading) (argument : String) :
    Except Stop Reading :=
  match grammar.operandAt? reading.operands.length with
  | some operand => do
      let reading ← reading.settle
      return { reading with
        operands := reading.operands ++ [argument]
        onlyOperands := reading.onlyOperands || operand.endsSwitches }
  | none => .error (grammar.surplus reading.onlyOperands argument)

/-- The switch whose value is awaited. -/
def awaiting? (reading : Reading) : Option Switch :=
  if reading.onlyOperands then none
  else
    match reading.pending with
    | some (switch, none) => some switch
    | _ => none

/-- One more argument, which is not the name of a further command. -/
def take (grammar : Grammar) (reading : Reading) (argument : String) : Except Stop Reading :=
  if reading.onlyOperands then reading.takeOperand grammar argument
  else
    match argument.toList with
    | ['-', '-'] => .ok { reading with onlyOperands := true }
    | '-' :: '-' :: name => reading.takeName grammar name
    | '-' :: letter :: letters => reading.takeLetters grammar (letter :: letters)
    | _ =>
        match reading.awaiting? with
        | some switch => .ok { reading with pending := some (switch, some argument) }
        | none => reading.takeOperand grammar argument

/-- The end of the arguments of a command, with the levels of the command that follows, if any. -/
def finish (grammar : Grammar) (name : String) (reading : Reading) (below : List Level) :
    Except Stop (List Level) := do
  let reading ← reading.settle
  if grammar.needsCommand && below.isEmpty then throw .missingCommand
  if reading.operands.length < (grammar.operands.filter Operand.isRequired).length then
    throw .missingArgument
  return ⟨name, reading.switches, reading.operands⟩ :: below

end Reading

/-- The arguments from where a command of a name stands. -/
def readFrom (grammar : Grammar) (name : String) (reading : Reading) :
    List String → Except Stop (List Level)
  | [] => reading.finish grammar name []
  | argument :: rest =>
      let mayBeCommand := !reading.onlyOperands && reading.awaiting?.isNone
      match if mayBeCommand then grammar.command? argument else none with
      | some inner => do
          let below ← readFrom inner argument {} rest
          reading.finish grammar name below
      | none =>
          if mayBeCommand && grammar.asksForHelp argument then .error (grammar.helpOn rest)
          else do
            let reading ← reading.take grammar argument
            readFrom grammar name reading rest

/-- The levels of a command line, from the program to the innermost command. -/
def Grammar.read (grammar : Grammar) (program : String) (arguments : List String) :
    Except Stop (List Level) :=
  readFrom grammar program {} arguments

end Notekeeper.Usage

import Notekeeper.Command.Arguments

/-!
# Help

What a user is told who asks for help or whose arguments were not understood. The outline of the
commands is made from their grammar.
-/

namespace Notekeeper

namespace Usage

/-- The sentence for why reading the arguments ended. -/
def Stop.message : Stop → String
  | help => "Help was asked for"
  | version => "The version was asked for"
  | missingCommand => "A command is missing"
  | missingArgument => "An argument is missing"
  | unknownCommand => "There is no such command"
  | unknownArgument => "There is no such argument"
  | missingValue => "A value is missing"
  | unknownChoice => "A value is none of those to choose from"
  | malformedValue => "A value cannot be understood"
  | unwantedValue => "A value is given where none is taken"
  | repeated => "An argument is given twice"

/-- A switch in the outline. -/
def Switch.outline (switch : Switch) : String :=
  let letter :=
    match switch.letter? with
    | some letter => "-" ++ String.ofList [letter] ++ ", "
    | none => ""
  let value :=
    match switch.arity with
    | .single => " VALUE"
    | .many => " VALUE,..."
    | .flag | .stop _ => ""
  letter ++ "--" ++ switch.name ++ value

/-- A line of the outline at a level. -/
def outlineLine (level : Nat) (content : String) : String :=
  String.ofList (List.replicate (4 * level) ' ') ++ content ++ "\n"

mutual

/-- The switches and further commands of a command, one on each line. -/
def Grammar.outline (level : Nat) : Grammar → String
  | .node switches _ _ commands =>
      String.join (switches.map fun switch => outlineLine level switch.outline) ++
        outlineEach level commands

/-- Some commands, each with its switches and further commands below it. -/
def outlineEach (level : Nat) : List (String × Grammar) → String
  | [] => ""
  | (name, inner) :: rest =>
      outlineLine level name ++ inner.outline (level + 1) ++ outlineEach level rest

end

end Usage

namespace Invocation

/-- The version of the program. -/
def version : String := "0.2.1"

/-- The text that help shows. -/
def help : String :=
  "Note database with file-based sync between replicas\n\n" ++ "Usage: " ++ program ++
    " [SWITCHES] COMMAND\n\n" ++ Command.grammar.outline 1

end Invocation

end Notekeeper

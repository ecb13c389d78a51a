import PatternLint.CommandLine.Key
import PatternLint.Text.Quoted

/-! Command lines that ask for nothing sensible. -/

namespace PatternLint.CommandLine

/-- What is wrong with a command line. -/
inductive Fault where
  | ambiguous (argument : String) (spellings : List String)
  | unwantedValue (key : Key) (value : String)
  | missingValue (key : Key)
  | unknownFormat (name : String)
  | missingCommand
  | unknownCommand (name : String)
  | unrecognized (arguments : List String)
deriving DecidableEq

namespace Fault

def choices (names : List String) : String := String.intercalate ", " (names.map quoted)

def invalidChoice (of name : String) (names : List String) : String :=
  s!"argument {of}: invalid choice: {quoted name} (choose from {choices names})"

def message : Fault → String
  | ambiguous argument spellings =>
    let several := String.intercalate ", " spellings
    s!"ambiguous option: {argument} could match {several}"
  | unwantedValue key value =>
    s!"argument {key.shown}: ignored explicit argument {quoted value}"
  | missingValue key => s!"argument {key.shown}: expected one argument"
  | unknownFormat name =>
    invalidChoice (Key.field .format).shown name (Format.all.map Format.name)
  | missingCommand => "the following arguments are required: command"
  | unknownCommand name => invalidChoice "command" name (Command.all.map Command.name)
  | unrecognized arguments =>
    let rest := String.intercalate " " arguments
    s!"unrecognized arguments: {rest}"

end Fault

def programName : String := "swiftguard"

/-- A fault, with the command whose arguments are at fault, or none for the program's own. -/
structure Misuse where
  command : Option Command
  fault : Fault
deriving DecidableEq

namespace Misuse

def speaker (m : Misuse) : String :=
  match m.command with
  | none => programName
  | some c => s!"{programName} {c.name}"

def line (m : Misuse) : String := s!"{m.speaker}: error: {m.fault.message}"

end Misuse

end PatternLint.CommandLine

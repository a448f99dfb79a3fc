/-!
# Commands

What a command line can ask for, and why it may be turned down before anything is run.

* `Command` — the four commands; `MaskSource` — where their mask comes from.
* `Refusal` — why no command is run; help and version count as such, without being errors.
-/

namespace MaskedInput.CommandLine

/-- Where the mask of a command comes from. -/
inductive MaskSource where
  | pattern (pattern : List Char)
  | field (name : List Char)
  deriving DecidableEq, Repr, Inhabited

inductive Command where
  | format (source : MaskSource) (text : List Char) (noAutocomplete rightToLeft json : Bool)
  | unmask (source : MaskSource) (text : List Char)
  | placeholder (source : MaskSource)
  | check (pattern : List Char)
  deriving DecidableEq, Repr, Inhabited

inductive Refusal where
  | nothingGiven
  | commandMissing
  | commandUnknown
  /-- An option or an operand that the command does not have. -/
  | argumentUnknown
  | argumentMissing
  /-- An option is given twice, or two that exclude each other. -/
  | argumentConflict
  | valueMissing
  | valueUnexpected
  | help
  | version
  deriving DecidableEq, Repr, Inhabited

/-- What is said to the user. -/
def Refusal.message : Refusal → String
  | nothingGiven => "error: a command is required"
  | commandMissing => "error: a command is required behind the options"
  | commandUnknown => "error: there is no such command"
  | argumentUnknown => "error: unexpected argument"
  | argumentMissing => "error: a required argument is missing"
  | argumentConflict => "error: arguments exclude each other"
  | valueMissing => "error: an option lacks its value"
  | valueUnexpected => "error: a switch has no value"
  | help =>
    "Apply input masks to text\n\n" ++
    "Usage: textmask format (-m PATTERN | -f NAME) [--no-autocomplete] [--right-to-left]\n" ++
    "                       [--json] TEXT\n" ++
    "       textmask unmask (-m PATTERN | -f NAME) TEXT\n" ++
    "       textmask placeholder (-m PATTERN | -f NAME)\n" ++
    "       textmask check PATTERN"
  | version => "textmask 0.1.0"

/-- The exit code: asking for help or for the version is no error. -/
def Refusal.exitCode : Refusal → Nat
  | help | version => 0
  | _ => 2

end MaskedInput.CommandLine

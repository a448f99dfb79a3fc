import MaskedInput.CommandLine.Command
import MaskedInput.Config.Basic
import MaskedInput.Text.Json
import MaskedInput.Text.Quoted

/-!
# Running a command

A command prints one result, or fails with a report.  A pattern on the command line makes a field
with that pattern alone; the name of a field is looked up in the configuration.

* `Failure` — why a command has no result; `Failure.report` — what is said about it.
* **`Command.run`** — the result of a command; `Outcome` — what the caller sees of it.
-/

namespace MaskedInput.CommandLine

/-- Why a command has no result. -/
inductive Failure where
  | invalidPattern (pattern : List Char) (cause : PatternError)
  | noField (name : List Char)
  deriving DecidableEq, Repr, Inhabited

namespace Failure

def summary : Failure → List Char
  | invalidPattern pattern _ => "Invalid mask pattern ".toList ++ Text.quoted pattern
  | noField name => "No field named ".toList ++ Text.quoted name ++ " in masks.yaml".toList

/-- What was the cause, if there is more to say. -/
def cause? : Failure → Option (List Char)
  | invalidPattern _ cause => some cause.message
  | noField _ => none

/-- A text with its lines indented by four spaces. -/
def indented (text : List Char) : List Char :=
  "    ".toList ++ text.flatMap fun c => if c = '\n' then '\n' :: "    ".toList else [c]

/-- What is said about the failure. -/
def report (f : Failure) : List Char :=
  "Error: ".toList ++ f.summary ++ ['\n'] ++
    match f.cause? with
    | none => []
    | some cause => "\nCaused by:\n".toList ++ indented cause ++ ['\n']

end Failure

/-- The members of a printed record. -/
def record (d : Display) : List (String × Text.Json.Member) :=
  [("formatted_text", .text d.text), ("extracted_value", .text d.value),
    ("caret_position", .count d.caret), ("is_complete", .flag d.complete)]

/-- The definition that a source stands for. -/
def MaskSource.definition (config : Config) : MaskSource → Except Failure Definition
  | .pattern text => .ok { mask := text }
  | .field name =>
    match config.find? name with
    | some d => .ok d
    | none => .error (.noField name)

def compileField (d : Definition) : Except Failure Field :=
  d.compile.mapError (.invalidPattern d.mask)

namespace Command

def display (config : Config) (source : MaskSource) (text : List Char)
    (noAutocomplete rightToLeft : Bool) : Except Failure Display := do
  let d ← source.definition config
  let field ← compileField { d with rightToLeft := rightToLeft || d.rightToLeft }
  let mask := field.best text
  return { mask with autocomplete := !noAutocomplete && mask.autocomplete }.format text

/-- **The result of a command**, without the end of its last line. -/
def run (config : Config) : Command → Except Failure (List Char)
  | .format source text noAutocomplete rightToLeft json => do
    let d ← display config source text noAutocomplete rightToLeft
    return if json then Text.Json.record (record d) else d.text
  | .unmask source text => do
    let field ← compileField (← source.definition config)
    return (field.best text).unmask text
  | .placeholder source => do
    let field ← compileField (← source.definition config)
    return field.primary.placeholder
  | .check pattern => do
    let m ← (Mask.compile [] pattern).mapError (.invalidPattern pattern)
    return "ok: ".toList ++ Nat.toDigits 10 m.maxTextLength ++ " slots, value length ".toList ++
      Nat.toDigits 10 m.minValueLength ++ "..=".toList ++ Nat.toDigits 10 m.maxValueLength

end Command

/-- What the caller of a command sees. -/
structure Outcome where
  exitCode : Nat
  output : List Char
  report : List Char
  deriving DecidableEq, Repr, Inhabited

/-- What is seen of a result or a failure: a result ends its line, and a failure has code 1. -/
def Outcome.of : Except Failure (List Char) → Outcome
  | .ok text => ⟨0, text ++ ['\n'], []⟩
  | .error failure => ⟨1, [], failure.report⟩

end MaskedInput.CommandLine

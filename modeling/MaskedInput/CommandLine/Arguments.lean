import MaskedInput.CommandLine.Command

/-!
# Reading a command line

Arguments are read from left to right.  A long option stands alone, with its value behind an equals
sign or in the next argument; short options may share one dash, and a value may follow the last of
them at once.  Behind two dashes everything is an operand.

An option that waits for its value is only settled when the next option or operand comes, or the
end.  So it is then that a missing value or a repetition is found, unless that next argument is
itself unknown.

* `Grammar` — the options and operands of a command.
* `Reading` — what has been read so far; `Reading.feed` — the next argument.
* **`Command.parse`** — the command of a command line, or why there is none.
-/

namespace MaskedInput.CommandLine

/-! ## Options -/

/-- The options, by what they ask for. -/
inductive OptionName where
  | verbose
  | help
  | version
  | mask
  | field
  | noAutocomplete
  | rightToLeft
  | json
  deriving DecidableEq, Repr, Inhabited

namespace OptionName

def long : OptionName → String
  | verbose => "verbose"
  | help => "help"
  | version => "version"
  | mask => "mask"
  | field => "field"
  | noAutocomplete => "no-autocomplete"
  | rightToLeft => "right-to-left"
  | json => "json"

/-- The letter behind one dash, for the options that have one. -/
def short? : OptionName → Option Char
  | verbose => some 'v'
  | help => some 'h'
  | version => some 'V'
  | mask => some 'm'
  | field => some 'f'
  | _ => none

/-- Whether the option has a value. -/
def takesValue : OptionName → Bool
  | mask | field => true
  | _ => false

end OptionName

/-- The options and operands of a command. -/
structure Grammar where
  options : List OptionName
  operands : Nat
  deriving Repr

namespace Grammar

def long? (g : Grammar) (name : List Char) : Option OptionName :=
  g.options.find? (·.long.toList = name)

def short? (g : Grammar) (letter : Char) : Option OptionName :=
  g.options.find? (·.short? = some letter)

def program : Grammar := ⟨[.verbose, .help, .version], 0⟩

def format : Grammar :=
  ⟨[.verbose, .help, .mask, .field, .noAutocomplete, .rightToLeft, .json], 1⟩

def unmask : Grammar := ⟨[.verbose, .help, .mask, .field], 1⟩

def placeholder : Grammar := ⟨[.verbose, .help, .mask, .field], 0⟩

def check : Grammar := ⟨[.verbose, .help], 1⟩

end Grammar

/-! ## What has been read -/

/-- An option that is not settled yet, with its value if that has come. -/
structure Pending where
  name : OptionName
  value : Option (List Char) := none
  deriving DecidableEq, Repr

/-- What has been read so far. -/
structure Reading where
  /-- The settled options with their values, the last one first; a switch has no value. -/
  options : List (OptionName × List Char) := []
  operands : List (List Char) := []
  pending : Option Pending := none
  operandsOnly : Bool := false
  deriving Repr

namespace Reading

def has (r : Reading) (name : OptionName) : Bool := (r.options.lookup name).isSome

/-- Settles an option.  Only asking to be verbose may be repeated; asking for help or for the
version is answered at once. -/
def settle (r : Reading) (name : OptionName) (value : List Char) : Except Refusal Reading :=
  match name with
  | .help => .error .help
  | .version => .error .version
  | .verbose => .ok { r with options := (name, value) :: r.options }
  | _ =>
    if r.has name then .error .argumentConflict
    else .ok { r with options := (name, value) :: r.options }

/-- Settles the option that was waiting for its value. -/
def settlePending (r : Reading) : Except Refusal Reading :=
  match r.pending with
  | none => .ok r
  | some ⟨_, none⟩ => .error .valueMissing
  | some ⟨name, some value⟩ => { r with pending := none }.settle name value

/-- An option with its value, if that is at hand. -/
def addOption (r : Reading) (name : OptionName) (value : Option (List Char)) :
    Except Refusal Reading := do
  let r ← r.settlePending
  if name.takesValue && value.isNone then return { r with pending := some ⟨name, none⟩ }
  else r.settle name (value.getD [])

/-- The option behind two dashes, with the value behind its equals sign. -/
def feedLong (g : Grammar) (r : Reading) (argument : List Char) : Except Refusal Reading :=
  let value := (argument.dropWhile (· != '=')).tail?
  match g.long? (argument.takeWhile (· != '=')) with
  | none => .error .argumentUnknown
  | some name =>
    if value.isSome && !name.takesValue then .error .valueUnexpected else r.addOption name value

/-- The options behind one dash.  What follows an option with a value is that value, with or without
an equals sign in front. -/
def feedShort (g : Grammar) (r : Reading) : List Char → Except Refusal Reading
  | [] => .ok r
  | letter :: rest =>
    match g.short? letter with
    | none => .error .argumentUnknown
    | some name =>
      if name.takesValue then
        match rest with
        | [] => r.addOption name none
        | '=' :: value => r.addOption name (some value)
        | value => r.addOption name (some value)
      else do feedShort g (← r.addOption name none) rest

/-- An argument that is no option. -/
def feedOperand (g : Grammar) (r : Reading) (argument : List Char) : Except Refusal Reading :=
  if r.operands.length < g.operands then do
    let r ← r.settlePending
    return { r with operands := r.operands ++ [argument] }
  else .error .argumentUnknown

/-- Whether an argument is no option: it has no dash in front, or nothing but a dash. -/
def isOperand (r : Reading) (argument : List Char) : Bool :=
  r.operandsOnly || argument.head? != some '-' || argument.length == 1

/-- **The next argument.** -/
def feed (g : Grammar) (r : Reading) (argument : List Char) : Except Refusal Reading :=
  if r.operandsOnly then r.feedOperand g argument
  else
    match argument with
    | ['-', '-'] => .ok { r with operandsOnly := true }
    | '-' :: '-' :: option => feedLong g r option
    | '-' :: letter :: rest => feedShort g r (letter :: rest)
    | _ =>
      match r.pending with
      | some ⟨name, none⟩ => .ok { r with pending := some ⟨name, some argument⟩ }
      | _ => r.feedOperand g argument

def ofArguments (g : Grammar) (arguments : List (List Char)) : Except Refusal Reading := do
  (← arguments.foldlM (feed g) {}).settlePending

/-- The source of the mask; there has to be exactly one. -/
def source (r : Reading) : Except Refusal MaskSource :=
  match r.options.lookup .mask, r.options.lookup .field with
  | some pattern, none => .ok (.pattern pattern)
  | none, some name => .ok (.field name)
  | some _, some _ => .error .argumentConflict
  | none, none => .error .argumentMissing

def operand (r : Reading) : Except Refusal (List Char) :=
  match r.operands with
  | text :: _ => .ok text
  | [] => .error .argumentMissing

end Reading

/-! ## Commands -/

namespace Command

/-- The commands, and the one that shows help. -/
def names : List (List Char) :=
  ["format".toList, "unmask".toList, "placeholder".toList, "check".toList, "help".toList]

/-- The command of a name with its arguments. -/
def ofName (name : List Char) (arguments : List (List Char)) : Except Refusal Command := do
  if name = "format".toList then
    let r ← Reading.ofArguments .format arguments
    let source ← r.source
    return .format source (← r.operand) (r.has .noAutocomplete) (r.has .rightToLeft) (r.has .json)
  else if name = "unmask".toList then
    let r ← Reading.ofArguments .unmask arguments
    let source ← r.source
    return .unmask source (← r.operand)
  else if name = "placeholder".toList then
    return .placeholder (← (← Reading.ofArguments .placeholder arguments).source)
  else if name = "check".toList then
    return .check (← (← Reading.ofArguments .check arguments).operand)
  else
    match arguments with
    | [] => .error .help
    | [topic] => .error (if topic ∈ names then .help else .commandUnknown)
    | _ => .error .commandUnknown

/-- The command of the arguments behind what has been read. -/
def parseFrom (r : Reading) : List (List Char) → Except Refusal Command
  | [] => .error (if r.options.isEmpty then .nothingGiven else .commandMissing)
  | argument :: arguments =>
    if r.isOperand argument then
      if argument ∉ names then .error .commandUnknown
      else if r.operandsOnly then .error .argumentUnknown
      else ofName argument arguments
    else
      match r.feed .program argument with
      | .ok r => parseFrom r arguments
      | .error e => .error e

/-- **The command of a command line**, the name of the program left out. -/
def parse (arguments : List (List Char)) : Except Refusal Command := parseFrom {} arguments

end Command

end MaskedInput.CommandLine

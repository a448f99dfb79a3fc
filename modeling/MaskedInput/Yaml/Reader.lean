import MaskedInput.Yaml.Document

/-!
# Reading values out of a document

A reader turns a node into a value, following aliases on its way.  What a node is taken for depends
on the value that is wanted, not on the way the node looks: any scalar will do for a text, and a
plain scalar is a truth value only where one is wanted.

* `Reader` — what is read from a document; it fails without a reason.
* `Reader.text`, `char`, `flag`, `choice` — scalars; `list`, `record` — their collections.
* `Record` — a mapping with texts for keys; **`Record.optional`, `Record.required`** — its members.
-/

namespace MaskedInput.Yaml

/-- Something read from a document, while the number of aliases still to be followed goes down. -/
abbrev Reader (α : Type) := ReaderT Document (StateT Nat Option) α

namespace Reader

variable {α : Type}

/-- The node itself, or the one that its alias stands for. -/
def follow (node : Node Nat) : Reader (Node Nat) := do
  match node with
  | .alias number =>
    match ← get with
    | 0 => failure
    | left + 1 =>
      set left
      match (← read).follow? number with
      | some target => return target
      | none => failure
  | node => return node

/-- The value, if there is one. -/
def ofOption : Option α → Reader α
  | some a => pure a
  | none => failure

/-! ## Scalars -/

/-- The text of a scalar, however it is written. -/
def text (node : Node Nat) : Reader (List Char) := do
  match ← follow node with
  | .scalar _ _ text => return text
  | _ => failure

def char (node : Node Nat) : Reader Char := do
  match ← text node with
  | [c] => return c
  | _ => failure

/-- The spellings of the truth values. -/
def flagNamed? (text : List Char) : Option Bool :=
  if ["true".toList, "True".toList, "TRUE".toList].contains text then some true
  else if ["false".toList, "False".toList, "FALSE".toList].contains text then some false
  else none

def isNull (text : List Char) : Bool :=
  text.isEmpty || ["~".toList, "null".toList, "Null".toList, "NULL".toList].contains text

/-- The tags of the standard types. -/
def standardTag (name : String) : Octets := octetsOf ("tag:yaml.org,2002:" ++ name).toList

/-- Whether a scalar may stand for a value other than a text: it is plain, or a literal block that
is tagged as such a value. -/
def isTyped (tag : String) (properties : Properties) (style : Style) : Bool :=
  style == .plain || (style == .literal && properties.tag == some (standardTag tag))

def flag (node : Node Nat) : Reader Bool := do
  match ← follow node with
  | .scalar properties style text =>
    if isTyped "bool" properties style then ofOption (flagNamed? text) else failure
  | _ => failure

/-- The name in a tag of the user's own, which starts with an exclamation mark. -/
def localName? (tag : Octets) : Option (List Char) := do
  if tag.head? = some 0x21 then
    return (← String.fromUTF8? ⟨tag.tail.toArray⟩).toList
  else none

/-- One of several names, written as a scalar, or as the tag of nothing. -/
def choice (named? : List Char → Option α) (node : Node Nat) : Reader α := do
  match ← follow node with
  | .scalar properties style text =>
    match properties.tag.bind localName? with
    | some name =>
      if style == .plain && isNull text then ofOption (named? name) else failure
    | none => ofOption (named? text)
  | _ => failure

/-! ## Collections -/

/-- A list; where nothing is written, it is empty. -/
def list (item : Node Nat → Reader α) (node : Node Nat) : Reader (List α) := do
  match ← follow node with
  | .sequence _ items => items.mapM item
  | node => if node.isEmpty then return [] else failure

end Reader

/-- A mapping with texts for keys, in the order of the text. -/
abbrev Record := List (List Char × Node Nat)

/-- A mapping with texts for keys; where nothing is written, it is empty. -/
def Reader.record (node : Node Nat) : Reader Record := do
  match ← Reader.follow node with
  | .mapping _ entries => entries.mapM fun (key, value) => do return (← Reader.text key, value)
  | node => if node.isEmpty then return [] else failure

namespace Record

variable {α : Type}

/-- The member of a name, which is there at most once. -/
def find (r : Record) (name : String) : Reader (Option (Node Nat)) :=
  match r.filter (·.1 = name.toList) with
  | [] => return none
  | [(_, value)] => return some value
  | _ => failure

/-- **A member that may be missing**, with its value in that case. -/
def optional (r : Record) (name : String) (value : Node Nat → Reader α) (default : α) :
    Reader α := do
  match ← r.find name with
  | none => return default
  | some node => value node

/-- **A member that must not be missing.** -/
def required (r : Record) (name : String) (value : Node Nat → Reader α) : Reader α := do
  match ← r.find name with
  | none => failure
  | some node => value node

end Record

/-- What is read from the root of a text's only document. -/
def read? {α : Type} (reader : Node Nat → Reader α) (text : List Char) : Option α := do
  let document ← Document.ofText? text
  let (value, _) ← (reader document.root).run document |>.run document.aliasLimit
  return value

end MaskedInput.Yaml

import MaskedInput.Yaml.Node.Basic

/-!
# From tokens to trees

The tokens of a document are read by descent, one function for each construct.  A key or a value
that is missing is an empty node.  Every step of the descent is bounded by `fuel`, which the
document provides in plenty: between two tokens that are taken up there are at most three steps.

* `Handles` — what the tag handles of a document stand for.
* **`Parser.node?`** — the node that the tokens start with, and the tokens behind it.
* `Parser.document?` — the node of the only document of a text.
-/

namespace MaskedInput.Yaml

/-- What the tag handles of a document stand for. -/
abbrev Handles := List (List Char × Octets)

/-- The tag that is written by a handle and a suffix. -/
def Handles.expand? (handles : Handles) (t : Tag) : Option Octets :=
  if t.handle.isEmpty then some t.suffix else (· ++ t.suffix) <$> handles.lookup t.handle

/-- The handles that need no declaration, for those that have none. -/
def Handles.standard : Handles :=
  [("!".toList, octetsOf "!".toList), ("!!".toList, octetsOf "tag:yaml.org,2002:".toList)]

namespace Parser

/-- A tree whose aliases are names. -/
abbrev Tree := Node (List Char)

/-! ## Where nodes may be missing -/

structure Context where
  block : Bool := true
  /-- Whether the items of a sequence may be indented like the key in front of it. -/
  aligned : Bool := false
  /-- The tokens in front of which the node is missing. -/
  absentAt : List Token := []

/-- Behind the dash of an item. -/
def Context.item : Context where
  absentAt := [.item, .blockEnd]

/-- Behind the dash of an item that is indented like the key in front of it. -/
def Context.alignedItem : Context where
  absentAt := [.item, .key, .value, .blockEnd]

/-- In an entry of a mapping that is shown by indentation. -/
def Context.entry : Context where
  aligned := true
  absentAt := [.key, .value, .blockEnd]

/-- Between brackets, the last of which is `close`; a key is missing in front of a colon, too. -/
def Context.flow (close : Token) (isKey : Bool) : Context where
  block := false
  absentAt := if isKey then [.value, .comma, close] else [.comma, close]

/-- Whether the node is missing that should stand here. -/
def Context.isAbsent (context : Context) (tokens : List Token) : Bool :=
  tokens.head?.any context.absentAt.contains

/-! ## The descent -/

/-- The anchor and the tag in front of a node, in either order. -/
def properties? (handles : Handles) : List Token → Option (Properties × List Token)
  | .anchor name :: .tag t :: rest | .tag t :: .anchor name :: rest => do
    return (⟨some name, some (← handles.expand? t)⟩, rest)
  | .anchor name :: rest => some (⟨some name, none⟩, rest)
  | .tag t :: rest => do return (⟨none, some (← handles.expand? t)⟩, rest)
  | rest => some ({}, rest)

/-- Behind a comma, or behind the opening bracket. -/
def behindComma? (first : Bool) : List Token → Option (List Token)
  | .comma :: rest => if first then none else some rest
  | rest => if first then some rest else none

mutual

/-- **The node that the tokens start with.** -/
def node? (handles : Handles) (fuel : Nat) (context : Context) (tokens : List Token) :
    Option (Tree × List Token) :=
  match fuel, tokens with
  | 0, _ => none
  | _, .alias name :: rest => some (.alias name, rest)
  | fuel + 1, tokens => do
    let (properties, rest) ← properties? handles tokens
    match rest, context with
    | .item :: _, { aligned := true, .. } =>
      let (items, rest) ← alignedItems? handles fuel rest
      return (.sequence properties items, rest)
    | .scalar style text :: rest, _ => return (.scalar properties style text, rest)
    | .flowSequenceStart :: rest, _ =>
      let (items, rest) ← flowItems? handles fuel true rest
      return (.sequence properties items, rest)
    | .flowMappingStart :: rest, _ =>
      let (entries, rest) ← flowEntries? handles fuel true rest
      return (.mapping properties entries, rest)
    | .blockSequenceStart :: rest, { block := true, .. } =>
      let (items, rest) ← items? handles fuel rest
      return (.sequence properties items, rest)
    | .blockMappingStart :: rest, { block := true, .. } =>
      let (entries, rest) ← entries? handles fuel rest
      return (.mapping properties entries, rest)
    | rest, _ => if properties = {} then none else return (.empty properties, rest)

/-- The node that stands here, or the empty node if it is missing. -/
def part? (handles : Handles) (fuel : Nat) (context : Context) (tokens : List Token) :
    Option (Tree × List Token) :=
  match fuel with
  | 0 => none
  | fuel + 1 =>
    if context.isAbsent tokens then some (.empty, tokens) else node? handles fuel context tokens

/-- The value behind a key; without a colon there is none. -/
def valuePart? (handles : Handles) (fuel : Nat) (context : Context) (tokens : List Token) :
    Option (Tree × List Token) :=
  match fuel, tokens with
  | 0, _ => none
  | fuel + 1, .value :: rest => part? handles fuel context rest
  | _, rest => some (.empty, rest)

/-- The items of a sequence that is shown by indentation. -/
def items? (handles : Handles) (fuel : Nat) (tokens : List Token) :
    Option (List Tree × List Token) :=
  match fuel, tokens with
  | _, .blockEnd :: rest => some ([], rest)
  | fuel + 1, .item :: rest => do
    let (item, rest) ← part? handles fuel .item rest
    let (items, rest) ← items? handles fuel rest
    return (item :: items, rest)
  | _, _ => none

/-- The items of a sequence that are indented like the key in front of it. -/
def alignedItems? (handles : Handles) (fuel : Nat) (tokens : List Token) :
    Option (List Tree × List Token) :=
  match fuel, tokens with
  | 0, _ => none
  | fuel + 1, .item :: rest => do
    let (item, rest) ← part? handles fuel .alignedItem rest
    let (items, rest) ← alignedItems? handles fuel rest
    return (item :: items, rest)
  | _, rest => some ([], rest)

/-- The entries of a mapping that is shown by indentation. -/
def entries? (handles : Handles) (fuel : Nat) (tokens : List Token) :
    Option (List (Tree × Tree) × List Token) :=
  match fuel, tokens with
  | _, .blockEnd :: rest => some ([], rest)
  | fuel + 1, .key :: rest => do
    let (key, rest) ← part? handles fuel .entry rest
    let (value, rest) ← valuePart? handles fuel .entry rest
    let (entries, rest) ← entries? handles fuel rest
    return ((key, value) :: entries, rest)
  | _, _ => none

/-- The items of a sequence between brackets.  An entry among them is a mapping by itself; where
its key is missing, the token behind the question mark is passed over. -/
def flowItems? (handles : Handles) (fuel : Nat) (first : Bool) (tokens : List Token) :
    Option (List Tree × List Token) :=
  match fuel, tokens with
  | _, .flowSequenceEnd :: rest => some ([], rest)
  | 0, _ => none
  | fuel + 1, tokens => do
    match ← behindComma? first tokens with
    | .flowSequenceEnd :: rest => return ([], rest)
    | .key :: rest =>
      let keyContext := Context.flow .flowSequenceEnd true
      let (key, rest) ←
        if keyContext.isAbsent rest then some (.empty, rest.tail)
        else node? handles fuel keyContext rest
      let (value, rest) ← valuePart? handles fuel (.flow .flowSequenceEnd false) rest
      let (items, rest) ← flowItems? handles fuel false rest
      return (.mapping {} [(key, value)] :: items, rest)
    | rest =>
      let (item, rest) ← node? handles fuel (.flow .flowSequenceEnd false) rest
      let (items, rest) ← flowItems? handles fuel false rest
      return (item :: items, rest)

/-- The entries of a mapping between brackets; a key may stand alone. -/
def flowEntries? (handles : Handles) (fuel : Nat) (first : Bool) (tokens : List Token) :
    Option (List (Tree × Tree) × List Token) :=
  match fuel, tokens with
  | _, .flowMappingEnd :: rest => some ([], rest)
  | 0, _ => none
  | fuel + 1, tokens => do
    match ← behindComma? first tokens with
    | .flowMappingEnd :: rest => return ([], rest)
    | .key :: rest =>
      let (key, rest) ← part? handles fuel (.flow .flowMappingEnd true) rest
      let (value, rest) ← valuePart? handles fuel (.flow .flowMappingEnd false) rest
      let (entries, rest) ← flowEntries? handles fuel false rest
      return ((key, value) :: entries, rest)
    | rest =>
      let (key, rest) ← node? handles fuel (.flow .flowMappingEnd false) rest
      let (entries, rest) ← flowEntries? handles fuel false rest
      return ((key, .empty) :: entries, rest)

end

/-! ## Documents -/

/-- The directives in front of a document.  The version is declared at most once, and no handle
twice. -/
def directives? (version : Bool) (handles : Handles) : List Token → Option (Handles × List Token)
  | .version :: rest => if version then none else directives? true handles rest
  | .tagHandle handle meaning :: rest =>
    if (handles.lookup handle).isSome then none
    else directives? version (handles ++ [(handle, meaning)]) rest
  | rest => some (handles, rest)

/-- Whether a document has no content. -/
def endsDocument : List Token → Bool
  | [] => true
  | t :: _ =>
    match t with
    | .version | .tagHandle _ _ | .documentStart | .documentEnd => true
    | _ => false

/-- The first document, and the tokens behind it.  Only a document with directives has to start
with a mark. -/
def firstDocument? (tokens : List Token) : Option (Tree × List Token) := do
  let (handles, rest) ← directives? false [] tokens
  let handles := handles ++ Handles.standard
  let fuel := 3 * (tokens.length + 1)
  match rest with
  | .documentStart :: rest =>
    if endsDocument rest then return (.empty, rest) else node? handles fuel {} rest
  | rest => if rest.length = tokens.length then node? handles fuel {} rest else none

/-- **The node of the only document of a text**; a text without any has the empty node. -/
def document? (tokens : List Token) : Option Tree := do
  if tokens.isEmpty then return .empty
  else
    let (tree, rest) ← firstDocument? tokens
    if rest.all (· == .documentEnd) then return tree else none

end Parser

end MaskedInput.Yaml

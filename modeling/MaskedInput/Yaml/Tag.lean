import MaskedInput.Yaml.Cursor

/-!
# Tags

A tag is a URI, which is a sequence of octets: characters that a URI may hold stand for themselves,
all others are written as percent signs with two hexadecimal digits.  A null octet ends a URI: what
is written behind it has to be well-formed, but says nothing.  In a text, a tag is either written
out between angle brackets or abbreviated by a handle that stands for its first part.

* `Octets`, `uri?` — the octets of a URI as it is written; `upToNull` — those that say something.
* `Tag`, **`Tag.scan`** — a tag as it is written: a handle and the rest.
* `handle?` — the handle that a directive declares.
-/

namespace MaskedInput.Yaml

abbrev Octets := List UInt8

/-- The octets of a text of ASCII characters. -/
def octetsOf (text : List Char) : Octets := text.map fun c => c.toNat.toUInt8

/-! ## URIs -/

/-- The characters that stand for themselves in a URI.  Commas and square brackets would end a tag
in front of them, so they may stand only where the tag is written out. -/
def isUriChar (writtenOut : Bool) (c : Char) : Bool :=
  isWordChar c || ";/?:@&=+$.!~*'()".toList.contains c || (writtenOut && ",[]".toList.contains c)

/-- How many octets are to come after this one, in the encoding of a character that still lacks
`missing` octets. -/
def missingAfter? (missing : Nat) (octet : Nat) : Option Nat :=
  if missing = 0 then
    if octet < 0x80 then some 0
    else if octet / 0x20 = 6 then some 1
    else if octet / 0x10 = 14 then some 2
    else if octet / 0x08 = 30 then some 3
    else none
  else if octet / 0x40 = 2 then some (missing - 1)
  else none

/-- The octets that the longest URI at the start of the text is written with, and the text behind
it. -/
def uri? (writtenOut : Bool) (missing : Nat) : List Char → Option (Octets × List Char)
  | [] => if missing = 0 then some ([], []) else none
  | c :: rest =>
    if c = '%' then
      match rest with
      | high :: low :: rest => do
        let octet := 16 * (← hexDigit? high) + (← hexDigit? low)
        let (uri, rest) ← uri? writtenOut (← missingAfter? missing octet) rest
        return (octet.toUInt8 :: uri, rest)
      | _ => none
    else if missing ≠ 0 then none
    else if isUriChar writtenOut c then do
      let (uri, rest) ← uri? writtenOut 0 rest
      return (c.toNat.toUInt8 :: uri, rest)
    else some ([], c :: rest)

/-- What a URI says: a null octet ends it. -/
def upToNull (uri : Octets) : Octets := uri.takeWhile (· != 0)

/-- A URI that something is written for, even if it says nothing. -/
def nonemptyUri? (writtenOut : Bool) (text : List Char) : Option (Octets × List Char) := do
  let (uri, rest) ← uri? writtenOut 0 text
  if uri.isEmpty then none else return (upToNull uri, rest)

/-! ## Tags and handles -/

/-- A tag as it is written.  The empty handle stands for nothing. -/
structure Tag where
  handle : List Char
  suffix : Octets
  deriving DecidableEq, Repr

/-- A tag without a handle of its own: the first exclamation mark is the handle, unless the suffix
says nothing. -/
def Tag.primary (suffix : Octets) : Tag :=
  if suffix.isEmpty then ⟨[], octetsOf ['!']⟩ else ⟨['!'], suffix⟩

/-- The tag whose exclamation mark has just been read. -/
def tag? : List Char → Option (Tag × List Char)
  | '<' :: rest => do
    match ← nonemptyUri? true rest with
    | (uri, '>' :: rest) => return (⟨[], uri⟩, rest)
    | _ => none
  | text => do
    let word := text.takeWhile isWordChar
    match text.dropWhile isWordChar with
    | '!' :: rest =>
      let (uri, rest) ← nonemptyUri? false rest
      return (⟨'!' :: word ++ ['!'], uri⟩, rest)
    | rest =>
      let (uri, rest) ← uri? false 0 rest
      return (.primary (octetsOf word ++ upToNull uri), rest)

/-- **The tag at the cursor.**  A space has to follow it; between brackets a comma will do. -/
def Tag.scan (flow : Bool) (c : Cursor) : Option (Tag × Cursor) := do
  let (tag, rest) ← tag? (c.rest.drop 1)
  if endsWord rest || (flow && rest.head? = some ',') then return (tag, c.along rest) else none

/-- The handle that a text starts with: an exclamation mark, two of them, or a word between. -/
def handle? : List Char → Option (List Char × List Char)
  | '!' :: text =>
    let word := text.takeWhile isWordChar
    match text.dropWhile isWordChar with
    | '!' :: rest => some ('!' :: word ++ ['!'], rest)
    | rest => if word.isEmpty then some (['!'], rest) else none
  | _ => none

end MaskedInput.Yaml

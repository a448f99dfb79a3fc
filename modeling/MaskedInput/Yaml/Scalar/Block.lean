import MaskedInput.Yaml.Cursor

/-!
# Block scalars

A block scalar is introduced by `|` or `>` and consists of the lines below that are indented more
than the surrounding block.  Behind `|` the lines are taken as they are; behind `>` a line break
between two lines that start with a word becomes a space.  The line breaks at the end are kept,
clipped to one, or stripped, as the header says.

* `Header` — what stands behind the indicator.
* `Line`, `linesOf` — the text below, line by line; `contentIndent?` — how far it is indented.
* `Paragraph`, `paragraphs` — the lines that belong to the scalar, with the empty lines behind each.
* **`Block.scan`** — the scalar, and the start of the first line behind it.
-/

namespace MaskedInput.Yaml.Block

/-! ## The header -/

/-- What happens to the line breaks at the end. -/
inductive Chomping where
  | strip
  | clip
  | keep
  deriving DecidableEq, Repr

structure Header where
  chomping : Chomping := .clip
  /-- How much deeper than the surrounding block the lines are indented, if that is said. -/
  indent : Option Nat := none
  deriving DecidableEq, Repr

/-- The chomping indicator, if there is one. -/
def chomping? : List Char → Option Chomping × List Char
  | '+' :: rest => (some .keep, rest)
  | '-' :: rest => (some .strip, rest)
  | rest => (none, rest)

/-- The indentation indicator, if there is one; it is a single digit and not zero. -/
def indent? : List Char → Option (Option Nat × List Char)
  | c :: rest =>
    if c = '0' then none
    else if c.isDigit then some (some (c.toNat - '0'.toNat), rest)
    else some (none, c :: rest)
  | [] => some (none, [])

/-- The header, its two indicators in either order. -/
def header? (text : List Char) : Option (Header × List Char) := do
  let (before, rest) := chomping? text
  let (indent, rest) ← indent? rest
  let (behind, rest) := if before.isNone && indent.isSome then chomping? rest else (none, rest)
  return (⟨(before <|> behind).getD .clip, indent⟩, rest)

/-! ## Lines -/

/-- A line without its end, and the character that ends it; the last one may have none. -/
structure Line where
  text : List Char
  ending : Option Char
  deriving DecidableEq, Repr

def linesOf : List Char → List Line
  | [] => []
  | c :: rest =>
    if isBreak c then ⟨[], some c⟩ :: linesOf rest
    else
      match linesOf rest with
      | [] => [⟨[c], none⟩]
      | line :: lines => ⟨c :: line.text, line.ending⟩ :: lines

/-- The number of characters of a line, its end included. -/
def Line.length (l : Line) : Nat := l.text.length + l.ending.toList.length

/-- How many spaces the line starts with. -/
def Line.indent (l : Line) : Nat := (l.text.takeWhile (· == ' ')).length

/-- Whether the line has spaces only, and goes on to another one. -/
def Line.isEmpty (l : Line) : Bool := l.text.all (· == ' ') && l.ending.isSome

/-- The widest indentation of the empty lines that come first and of the line behind them.  That
line must not be indented by tabs. -/
def widestIndent? : List Line → Option Nat
  | [] => some 0
  | l :: lines =>
    if l.isEmpty then (max l.indent ·) <$> widestIndent? lines
    else if (l.text.drop l.indent).head? = some '\t' then none
    else some l.indent

/-- How far the lines of the scalar are indented, inside a block that is indented by one column
less than `base`. -/
def contentIndent? (header : Header) (base : Nat) (lines : List Line) : Option Nat :=
  match header.indent with
  | some n => some (base - 1 + n)
  | none => (fun widest => max widest (max base 1)) <$> widestIndent? lines

/-! ## Content -/

/-- A line of the scalar without its indentation, its end, and the ends of the empty lines behind
it. -/
structure Paragraph where
  text : List Char
  ending : Option Char
  empty : List Char
  deriving DecidableEq, Repr

/-- The lines of a scalar whose lines are indented by `indent`. -/
structure Content where
  leading : List Char := []
  paragraphs : List Paragraph := []
  lineCount : Nat := 0
  length : Nat := 0
  deriving DecidableEq, Repr

/-- The content with a further line in front: an empty one. -/
def Content.consEmpty (l : Line) (c : Content) : Content :=
  { c with
    leading := l.ending.toList ++ c.leading
    lineCount := c.lineCount + 1
    length := l.length + c.length }

/-- The content with a further line in front: one with text. -/
def Content.consText (indent : Nat) (l : Line) (c : Content) : Content where
  leading := []
  paragraphs := ⟨l.text.drop indent, l.ending, c.leading⟩ :: c.paragraphs
  lineCount := c.lineCount + 1
  length := l.length + c.length

/-- The lines that belong to the scalar.  A line that is indented less ends it, unless tabs are
what it is indented by. -/
def contentOf? (indent : Nat) : List Line → Option Content
  | [] => some {}
  | l :: lines =>
    let text := l.text.drop (min indent l.indent)
    match text, l.ending with
    | [], none => some {}
    | [], some _ => .consEmpty l <$> contentOf? indent lines
    | c :: _, _ =>
      if indent ≤ l.indent then .consText indent l <$> contentOf? indent lines
      else if c = '\t' then none
      else some {}

/-! ## The value -/

/-- What stands between two lines.  A folded scalar joins them by a space if both start with a
word and no empty line is between them. -/
def joint (folded : Bool) (first second : Paragraph) : List Char :=
  let startsWithBlank (p : Paragraph) := p.text.head?.any isBlank
  if folded && first.ending == some '\n' && !startsWithBlank first && !startsWithBlank second then
    if first.empty.isEmpty then [' '] else first.empty
  else first.ending.toList ++ first.empty

/-- What stands behind the last line. -/
def chomped (chomping : Chomping) (last : Paragraph) : List Char :=
  match chomping with
  | .strip => []
  | .clip => last.ending.toList
  | .keep => last.ending.toList ++ last.empty

/-- The lines joined to a value. -/
def joined (folded : Bool) (chomping : Chomping) : List Paragraph → List Char
  | [] => []
  | [last] => last.text ++ chomped chomping last
  | first :: second :: others =>
    first.text ++ joint folded first second ++ joined folded chomping (second :: others)

/-- The value of a scalar.  Without a line of text, its empty lines count as its end. -/
def Content.value (c : Content) (folded : Bool) (chomping : Chomping) : List Char :=
  if c.paragraphs.isEmpty then
    match chomping with
    | .keep => c.leading
    | _ => []
  else c.leading ++ joined folded chomping c.paragraphs

/-- **The block scalar whose indicator is at the cursor**, inside a block that is indented by one
column less than `base`. -/
def scan (folded : Bool) (base : Nat) (c : Cursor) : Option (List Char × Cursor) := do
  let c := c.skip 1
  let (header, rest) ← header? c.rest
  let c := (← (c.along rest).toLineEnd?).skipBreak
  let lines := linesOf c.rest
  let content ← contentOf? (← contentIndent? header base lines) lines
  return (content.value folded header.chomping,
    ⟨c.rest.drop content.length, { line := c.line + content.lineCount }⟩)

end MaskedInput.Yaml.Block

/-!
# Places in a YAML text

A YAML text is read from left to right, with the line and the column in view, because indentation
carries the structure, and with the octets of the line, because they limit how long a key may be.
Line breaks come in several spellings; all but two of them mean the same, so they are made one
before the reading starts.

* `isReadable` — the characters that may occur at all.
* `unifyBreaks` — every spelling of a plain line break made a line feed.
* `Position`, `Cursor` — a place in the text, and the text from there on.
-/

namespace MaskedInput.Yaml

/-! ## Characters -/

/-- Whether a character may occur in a YAML text: none of the controls but tab and line breaks. -/
def isReadable (c : Char) : Bool :=
  let n := c.toNat
  n == 0x09 || n == 0x0A || n == 0x0D || (0x20 ≤ n && n ≤ 0x7E) || n == 0x85 ||
    (0xA0 ≤ n && n ≤ 0xFFFD) || 0x10000 ≤ n

/-- The text with a line feed for every carriage return, for the two together, and for the next
line control. -/
def unifyBreaks : List Char → List Char
  | '\r' :: '\n' :: rest => '\n' :: unifyBreaks rest
  | c :: rest => (if c = '\r' ∨ c = '\u0085' then '\n' else c) :: unifyBreaks rest
  | [] => []

/-- Whether a character ends a line: a line feed, or the separators of lines and paragraphs, which
stand for themselves in a value. -/
def isBreak (c : Char) : Bool := c == '\n' || c == '\u2028' || c == '\u2029'

def isBlank (c : Char) : Bool := c == ' ' || c == '\t'

/-- Whether a character stands between words. -/
def isSpace (c : Char) : Bool := isBlank c || isBreak c

/-- Whether a word ends here: at a blank, at a line break or at the end of the text. -/
def endsWord : List Char → Bool
  | [] => true
  | c :: _ => isSpace c

/-- The characters of anchors, tag handles and directive names. -/
def isWordChar (c : Char) : Bool := c.isAlphanum || c == '_' || c == '-'

/-- The value of a hexadecimal digit. -/
def hexDigit? (c : Char) : Option Nat :=
  if c.isDigit then some (c.toNat - '0'.toNat)
  else if 'a' ≤ c ∧ c ≤ 'f' then some (c.toNat - 'a'.toNat + 10)
  else if 'A' ≤ c ∧ c ≤ 'F' then some (c.toNat - 'A'.toNat + 10)
  else none

/-! ## Positions -/

/-- A place in the text; all numbers count from zero. -/
structure Position where
  line : Nat := 0
  column : Nat := 0
  /-- The number of octets between the start of the line and the place. -/
  octet : Nat := 0
  deriving DecidableEq, Repr, Inhabited

def Position.next (p : Position) (c : Char) : Position :=
  if isBreak c then { line := p.line + 1 }
  else { p with column := p.column + 1, octet := p.octet + c.utf8Size }

/-- The rest of the text from a place on. -/
structure Cursor where
  rest : List Char
  position : Position := {}
  deriving DecidableEq, Repr, Inhabited

namespace Cursor

def line (c : Cursor) : Nat := c.position.line

def column (c : Cursor) : Nat := c.position.column

/-- The cursor at a later place, of which the rest is known. -/
def along (c : Cursor) (rest : List Char) : Cursor :=
  ⟨rest, (c.rest.take (c.rest.length - rest.length)).foldl Position.next c.position⟩

/-- The cursor behind the next `n` characters. -/
def skip (c : Cursor) (n : Nat) : Cursor := c.along (c.rest.drop n)

/-- The characters in front of which `p` first fails, and the cursor there. -/
def span (c : Cursor) (p : Char → Bool) : List Char × Cursor :=
  (c.rest.takeWhile p, c.along (c.rest.dropWhile p))

def skipBlanks (c : Cursor) : Cursor := (c.span isBlank).2

/-- The cursor at the end of the line, if nothing but blanks and a comment stand in front of it. -/
def toLineEnd? (c : Cursor) : Option Cursor :=
  let c := c.skipBlanks
  let c := if c.rest.head? = some '#' then (c.span (!isBreak ·)).2 else c
  if endsWord c.rest then some c else none

/-- The cursor behind the line break it stands at, if any. -/
def skipBreak (c : Cursor) : Cursor :=
  match c.rest with
  | [] => c
  | b :: rest => if isBreak b then ⟨rest, c.position.next b⟩ else c

end Cursor

/-- Whether a line starts with one of the marks between documents, `---` or `...`. -/
def isDocumentMark (mark : Char) (p : Position) : List Char → Bool
  | a :: b :: c :: rest => p.column == 0 && a == mark && b == mark && c == mark && endsWord rest
  | _ => false

/-- Whether a scalar has to end here because a document does. -/
def atDocumentMark (p : Position) (rest : List Char) : Bool :=
  isDocumentMark '-' p rest || isDocumentMark '.' p rest

end MaskedInput.Yaml

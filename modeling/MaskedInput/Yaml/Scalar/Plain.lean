import MaskedInput.Yaml.Scalar.Gap

/-!
# Scalars without quotes

A plain scalar ends in front of `: `, in front of ` #`, and where the indentation falls back to
that of the surrounding block; between brackets it also ends in front of `,` and any bracket.

* `Plain.startsWith` — whether a plain scalar can start with these characters.
* **`Plain.scan`** — the scalar, whether a line break follows it, and the place behind it.
-/

namespace MaskedInput.Yaml.Plain

/-- The characters that cannot start a plain scalar, unless a word goes on behind them. -/
def indicators : List Char :=
  ['-', '?', ':', ',', '[', ']', '\x7b', '\x7d', '#', '&', '*', '!', '|', '>', '\'', '"', '%', '@',
    '\x60']

/-- Whether a plain scalar can start here. -/
def startsWith (flow : Bool) : List Char → Bool
  | [] => false
  | c :: rest =>
    (!isSpace c && !indicators.contains c) ||
    (c == '-' && !(rest.head?.any isBlank)) ||
    (!flow && (c == '?' || c == ':') && !endsWord rest)

/-- The characters that end a plain scalar between brackets. -/
def isFlowIndicator (c : Char) : Bool :=
  c == ',' || c == '[' || c == ']' || c == '\x7b' || c == '\x7d'

/-- Whether the scalar ends in front of these characters, in the middle of a word. -/
def endsAt (flow : Bool) (c : Char) (rest : List Char) : Bool :=
  (c == ':' && endsWord rest) || (flow && isFlowIndicator c)

/-- Whether the colon is misplaced: between brackets none may touch the next indicator. -/
def misplaced (flow : Bool) (c : Char) (rest : List Char) : Bool :=
  flow && c == ':' && rest.head?.any fun d => d == '?' || isFlowIndicator d

/-- Whether the scalar ends behind a gap. -/
def endsAfter (flow : Bool) (indent : Nat) (gap : Gap) (p : Position) (text : List Char) : Bool :=
  gap != Gap.none &&
    ((!flow && p.column < indent) || atDocumentMark p text || text.head? == some '#')

/-- What is left of the scalar behind `gap`, whether a line break follows it, and the place where
the reading stopped.  Its lines have at least `indent` columns of indentation, none of them tabs. -/
def scanFrom (flow : Bool) (indent : Nat) :
    List Char → Position → Gap → Option (List Char × Bool × Cursor)
  | [], p, gap => some ([], gap.isAcross, ⟨[], p⟩)
  | c :: rest, p, gap =>
    if isSpace c then
      if gap.isAcross && c == '\t' && p.column < indent then none
      else scanFrom flow indent rest (p.next c) (gap.add c)
    else if endsAfter flow indent gap p (c :: rest) then
      some ([], gap.isAcross, ⟨c :: rest, p⟩)
    else if misplaced flow c rest then none
    else if endsAt flow c rest then some ([], gap.isAcross, ⟨c :: rest, p⟩)
    else do
      let (text, broken, stop) ← scanFrom flow indent rest (p.next c) Gap.none
      return (gap.text ++ c :: text, broken, stop)

/-- **The plain scalar at the cursor.** -/
def scan (flow : Bool) (indent : Nat) (c : Cursor) : Option (List Char × Bool × Cursor) :=
  scanFrom flow indent c.rest c.position Gap.none

end MaskedInput.Yaml.Plain

import MaskedInput.Yaml.Scalar.Gap

/-!
# Scalars in quotes

Between single quotes a quote is written twice and nothing else is special.  Between double quotes
a backslash starts an escape: a letter for a control or a space, or the code point of any character
in hexadecimal.  A backslash at the end of a line joins it to the next one without a space.  Both
kinds fold over lines.

* `Escape` — what an escape stands for.
* **`Quoted.scanSingle`, `Quoted.scanDouble`** — the scalar, and the place behind its quotes.
-/

namespace MaskedInput.Yaml.Quoted

/-- What the character behind a backslash announces. -/
inductive Escape where
  | char (c : Char)
  | code (digits : Nat)
  deriving DecidableEq, Repr

/-- The escape of a character behind a backslash. -/
def Escape.of? : Char → Option Escape
  | '0' => some (.char '\x00')
  | 'a' => some (.char '\x07')
  | 'b' => some (.char '\x08')
  | 't' | '\t' => some (.char '\t')
  | 'n' => some (.char '\n')
  | 'v' => some (.char '\x0b')
  | 'f' => some (.char '\x0c')
  | 'r' => some (.char '\r')
  | 'e' => some (.char '\x1b')
  | ' ' => some (.char ' ')
  | '"' => some (.char '"')
  | '/' => some (.char '/')
  | '\\' => some (.char '\\')
  | 'N' => some (.char '\u0085')
  | '_' => some (.char '\u00a0')
  | 'L' => some (.char '\u2028')
  | 'P' => some (.char '\u2029')
  | 'x' => some (.code 2)
  | 'u' => some (.code 4)
  | 'U' => some (.code 8)
  | _ => none

/-- The character of a code point, unless that is a surrogate or too large. -/
def char? (n : Nat) : Option Char := if h : n.isValidChar then some (Char.ofNatAux n h) else none

/-- The rest of a single-quoted scalar behind `gap`, and the place behind the closing quote. -/
def scanSingle : List Char → Position → Gap → Option (List Char × Cursor)
  | [], _, _ => none
  | c :: rest, p, gap =>
    if isSpace c then scanSingle rest (p.next c) (gap.add c)
    else if atDocumentMark p (c :: rest) then none
    else if c = '\'' then
      match rest with
      | '\'' :: rest => do
        let (text, stop) ← scanSingle rest ((p.next '\'').next '\'') Gap.none
        return (gap.text ++ '\'' :: text, stop)
      | _ => some (gap.text, ⟨rest, p.next c⟩)
    else do
      let (text, stop) ← scanSingle rest (p.next c) Gap.none
      return (gap.text ++ c :: text, stop)

/-- The rest of a double-quoted scalar behind `gap`, and the place behind the closing quote.  While
the digits of a code point are read, `code` holds how many are to come and the number so far. -/
def scanDouble : List Char → Position → Gap → (code : Option (Nat × Nat)) →
    Option (List Char × Cursor)
  | [], _, _, _ => none
  | c :: rest, p, gap, some (digits, number) => do
    let number := 16 * number + (← hexDigit? c)
    if digits ≤ 1 then
      let (text, stop) ← scanDouble rest (p.next c) Gap.none none
      return ((← char? number) :: text, stop)
    else scanDouble rest (p.next c) gap (some (digits - 1, number))
  | c :: rest, p, gap, none =>
    if isSpace c then scanDouble rest (p.next c) (gap.add c) none
    else if atDocumentMark p (c :: rest) then none
    else if c = '"' then some (gap.text, ⟨rest, p.next c⟩)
    else if c = '\\' then
      match rest with
      | [] => none
      | e :: rest =>
        let p := (p.next c).next e
        if isBreak e then do
          let (text, stop) ← scanDouble rest p (.across none []) none
          return (gap.text ++ text, stop)
        else do
          match ← Escape.of? e with
          | .char e =>
            let (text, stop) ← scanDouble rest p Gap.none none
            return (gap.text ++ e :: text, stop)
          | .code digits =>
            let (text, stop) ← scanDouble rest p Gap.none (some (digits, 0))
            return (gap.text ++ text, stop)
    else do
      let (text, stop) ← scanDouble rest (p.next c) Gap.none none
      return (gap.text ++ c :: text, stop)

/-- **The scalar whose opening quote is at the cursor.** -/
def scan (single : Bool) (c : Cursor) : Option (List Char × Cursor) :=
  let c := c.skip 1
  if single then scanSingle c.rest c.position Gap.none
  else scanDouble c.rest c.position Gap.none none

end MaskedInput.Yaml.Quoted

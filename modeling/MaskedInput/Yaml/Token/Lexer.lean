import MaskedInput.Yaml.Token.Basic
import MaskedInput.Yaml.Scalar.Plain
import MaskedInput.Yaml.Scalar.Quoted
import MaskedInput.Yaml.Scalar.Block

/-!
# Cutting a YAML text into tokens

Two things make tokens depend on what is around them.  Indentation opens and closes blocks, so the
columns of the open blocks are kept.  And a colon makes a key of what stands in front of it, so the
start of everything that could be a key is remembered until the line ends: at most one candidate
outside of brackets, and one for every open bracket.

* `Candidate` — the start of a possible key; `Lexer` — the state between two tokens.
* `Lexer.next?` — the state behind the next token.
* **`Token.ofText?`** — the tokens of a text, or nothing if it is no YAML.
-/

namespace MaskedInput.Yaml

/-- The start of something that may turn out to be a key. -/
structure Candidate where
  /-- Whether it has to be a key, because it stands where only keys of the block may. -/
  required : Bool
  position : Position
  tokensBefore : Nat
  deriving DecidableEq, Repr

/-- Whether a key is too long to be one: it ends on its own line, within 1024 octets. -/
def Candidate.isStale (k : Candidate) (p : Position) : Bool :=
  k.position.line < p.line || k.position.octet + 1024 < p.octet

structure Lexer where
  cursor : Cursor
  blocks : List Nat := []
  candidate : Option Candidate := none
  /-- The possible keys outside of the open brackets, the innermost first. -/
  outer : List (Option Candidate) := []
  keyAllowed : Bool := true
  tokens : List Token := []
  deriving Repr

namespace Lexer

/-- Whether the cursor is between brackets. -/
def inFlow (s : Lexer) : Bool := !s.outer.isEmpty

/-- One column more than the innermost block, or the first column. -/
def base (s : Lexer) : Nat := (s.blocks.head?.map (· + 1)).getD 0

def emit (s : Lexer) (t : Token) : Lexer := { s with tokens := t :: s.tokens }

/-- Skips a token of `n` characters. -/
def emitSkipping (s : Lexer) (n : Nat) (t : Token) : Lexer :=
  { s.emit t with cursor := s.cursor.skip n }

/-! ## Blocks -/

/-- Whether a column is inside the innermost block. -/
def opensBlock (s : Lexer) (column : Nat) : Bool := !s.inFlow && s.base ≤ column

/-- Starts a block at the cursor, if it is indented more than the innermost one. -/
def openBlock (s : Lexer) (t : Token) : Lexer :=
  if s.opensBlock s.cursor.column then
    { s.emit t with blocks := s.cursor.column :: s.blocks }
  else s

/-- The blocks that are left when those to the right of `bound` end, and the number of those. -/
def blocksWithin (bound : Nat) : List Nat → List Nat × Nat
  | [] => ([], 0)
  | column :: blocks =>
    if bound ≤ column then
      let (left, ended) := blocksWithin bound blocks
      (left, ended + 1)
    else (column :: blocks, 0)

/-- Ends the blocks whose column is `bound` or more; brackets hold them open. -/
def endBlocks (s : Lexer) (bound : Nat) : Lexer :=
  if s.inFlow then s
  else
    let (blocks, ended) := blocksWithin bound s.blocks
    { s with blocks, tokens := List.replicate ended .blockEnd ++ s.tokens }

/-! ## Keys -/

/-- Gives the possible key at this level up. -/
def dropCandidate? (s : Lexer) : Option Lexer :=
  if s.candidate.any (·.required) then none else some { s with candidate := none }

/-- Remembers the cursor as the start of a possible key. -/
def saveCandidate? (s : Lexer) : Option Lexer :=
  if s.keyAllowed then do
    let s ← s.dropCandidate?
    return { s with
      candidate := some {
        required := !s.inFlow && s.blocks.head? = some s.cursor.column
        position := s.cursor.position
        tokensBefore := s.tokens.length } }
  else some s

/-- A possible key that is still one at a later place; a required one must be. -/
def kept? (p : Position) : Option Candidate → Option (Option Candidate)
  | none => some none
  | some k => if !k.isStale p then some (some k) else if k.required then none else some none

/-- Gives the possible keys up that are too long by now. -/
def dropStale? (s : Lexer) : Option Lexer := do
  return { s with
    candidate := ← kept? s.cursor.position s.candidate
    outer := ← s.outer.mapM (kept? s.cursor.position) }

/-- Makes a key of a candidate: its token goes in front of it, and a block starts there if it is
indented more than the innermost one. -/
def insertKey (s : Lexer) (k : Candidate) : Lexer :=
  let behind := s.tokens.length - k.tokensBefore
  let opens := s.opensBlock k.position.column
  { s with
    blocks := if opens then k.position.column :: s.blocks else s.blocks
    tokens := s.tokens.take behind ++ .key ::
      (if opens then [.blockMappingStart] else []) ++ s.tokens.drop behind
    candidate := none
    keyAllowed := false }

/-! ## Between tokens -/

/-- Skips spaces, comments and line breaks.  Tabs are spaces between brackets, and where no key may
start.  A new line outside of brackets allows a key again. -/
def skipSpace (flow : Bool) : (comment : Bool) → (keyAllowed : Bool) →
    List Char → Position → Cursor × Bool
  | _, keyAllowed, [], p => (⟨[], p⟩, keyAllowed)
  | comment, keyAllowed, c :: rest, p =>
    if isBreak c then skipSpace flow false (keyAllowed || !flow) rest (p.next c)
    else if comment || c == ' ' || (c == '\t' && (flow || !keyAllowed)) ||
        (c == '\ufeff' && p.column == 0) then
      skipSpace flow comment keyAllowed rest (p.next c)
    else if c == '#' then skipSpace flow true keyAllowed rest (p.next c)
    else (⟨c :: rest, p⟩, keyAllowed)

/-- Moves to the next token and ends the blocks that are over there. -/
def advance? (s : Lexer) : Option Lexer := do
  let (cursor, keyAllowed) :=
    skipSpace s.inFlow false s.keyAllowed s.cursor.rest s.cursor.position
  let s ← { s with cursor, keyAllowed }.dropStale?
  return s.endBlocks (cursor.column + 1)

/-! ## Tokens outside of brackets -/

/-- What precedes the marks that start at the first column: every block is over. -/
def atMargin? (s : Lexer) : Option Lexer := do
  return { ← (s.endBlocks 0).dropCandidate? with keyAllowed := false }

/-- A number of at most nine digits. -/
def number? (text : List Char) : Option (Nat × List Char) :=
  let digits := text.takeWhile Char.isDigit
  if digits.isEmpty || 9 < digits.length then none
  else
    some (digits.foldl (fun n c => 10 * n + (c.toNat - '0'.toNat)) 0,
      text.dropWhile Char.isDigit)

/-- The version that a directive declares; only 1.1 and 1.2 are known. -/
def version? (text : List Char) : Option (Token × List Char) := do
  match ← number? (text.dropWhile isBlank) with
  | (1, '.' :: rest) =>
    let (minor, rest) ← number? rest
    if minor = 1 ∨ minor = 2 then return (.version, rest) else none
  | _ => none

/-- The handle that a directive declares, with what it stands for. -/
def tagHandle? (text : List Char) : Option (Token × List Char) := do
  let (handle, rest) ← handle? (text.dropWhile isBlank)
  if rest.head?.any isBlank then
    let (meaning, rest) ← nonemptyUri? true (rest.dropWhile isBlank)
    if endsWord rest then return (.tagHandle handle meaning, rest) else none
  else none

/-- The directive behind a percent sign. -/
def directive? (text : List Char) : Option (Token × List Char) :=
  let name := text.takeWhile isWordChar
  let rest := text.dropWhile isWordChar
  if !endsWord rest then none
  else if name = "YAML".toList then version? rest
  else if name = "TAG".toList then tagHandle? rest
  else none

/-- A directive, which takes up a line of its own. -/
def scanDirective? (s : Lexer) : Option Lexer := do
  let s ← s.atMargin?
  let (token, rest) ← directive? (s.cursor.rest.drop 1)
  let cursor ← (s.cursor.along rest).toLineEnd?
  return { s.emit token with cursor := cursor.skipBreak }

def scanDocumentMark? (s : Lexer) (t : Token) : Option Lexer := do
  return (← s.atMargin?).emitSkipping 3 t

/-- A dash in front of an item. -/
def scanItem? (s : Lexer) : Option Lexer := do
  if !s.inFlow && !s.keyAllowed then none
  else
    let s ← (s.openBlock .blockSequenceStart).dropCandidate?
    return { s with keyAllowed := true }.emitSkipping 1 .item

/-- A question mark in front of a key. -/
def scanKey? (s : Lexer) : Option Lexer := do
  if !s.inFlow && !s.keyAllowed then none
  else
    let s ← (s.openBlock .blockMappingStart).dropCandidate?
    return { s with keyAllowed := !s.inFlow }.emitSkipping 1 .key

/-- A colon in front of a value, behind a key of either kind. -/
def scanValue? (s : Lexer) : Option Lexer :=
  match s.candidate with
  | some k => some ((s.insertKey k).emitSkipping 1 .value)
  | none =>
    if !s.inFlow && !s.keyAllowed then none
    else
      let s := s.openBlock .blockMappingStart
      some ({ s with keyAllowed := !s.inFlow }.emitSkipping 1 .value)

/-! ## Tokens between brackets -/

def openFlow? (s : Lexer) (t : Token) : Option Lexer := do
  let s ← s.saveCandidate?
  return { s with
    candidate := none
    outer := s.candidate :: s.outer
    keyAllowed := true }.emitSkipping 1 t

def closeFlow? (s : Lexer) (t : Token) : Option Lexer := do
  let s ← s.dropCandidate?
  let s := { s with
    candidate := s.outer.headD s.candidate
    outer := s.outer.tail
    keyAllowed := false }
  return s.emitSkipping 1 t

def scanComma? (s : Lexer) : Option Lexer := do
  return { ← s.dropCandidate? with keyAllowed := true }.emitSkipping 1 .comma

/-! ## Nodes -/

/-- What starts a node may start a key, and no other key starts before it is over. -/
def startNode? (s : Lexer) : Option Lexer := do
  return { ← s.saveCandidate? with keyAllowed := false }

/-- The name behind an asterisk or an ampersand, with what has to follow it. -/
def scanName? (s : Lexer) (token : List Char → Token) : Option Lexer := do
  let s ← s.startNode?
  let (name, cursor) := (s.cursor.skip 1).span isWordChar
  let ends := endsWord cursor.rest ||
    cursor.rest.head?.any ("?:,]\x7d%@\x60".toList.contains ·)
  if name.isEmpty || !ends then none
  else return { s.emit (token name) with cursor }

def scanTag? (s : Lexer) : Option Lexer := do
  let s ← s.startNode?
  let (tag, cursor) ← Tag.scan s.inFlow s.cursor
  return { s.emit (.tag tag) with cursor }

/-- A block scalar, behind which a line starts anew. -/
def scanBlock? (s : Lexer) (folded : Bool) : Option Lexer := do
  let s ← s.dropCandidate?
  let (text, cursor) ← Block.scan folded s.base s.cursor
  return { s.emit (.scalar (if folded then .folded else .literal) text) with
    cursor
    keyAllowed := true }

def scanQuoted? (s : Lexer) (single : Bool) : Option Lexer := do
  let s ← s.startNode?
  let (text, cursor) ← Quoted.scan single s.cursor
  return { s.emit (.scalar .quoted text) with cursor }

/-- A plain scalar; a key may start on a new line behind it. -/
def scanPlain? (s : Lexer) : Option Lexer := do
  let s ← s.startNode?
  let (text, broken, cursor) ← Plain.scan s.inFlow s.base s.cursor
  return { s.emit (.scalar .plain text) with cursor, keyAllowed := broken }

/-! ## The next token -/

/-- The state behind the token at the cursor, which is not at the end of the text. -/
def next? (s : Lexer) : Option Lexer :=
  let p := s.cursor.position
  let text := s.cursor.rest
  match text with
  | [] => none
  | c :: rest =>
    if p.column = 0 ∧ c = '%' then s.scanDirective?
    else if isDocumentMark '-' p text then s.scanDocumentMark? .documentStart
    else if isDocumentMark '.' p text then s.scanDocumentMark? .documentEnd
    else if c = '[' then s.openFlow? .flowSequenceStart
    else if c = '\x7b' then s.openFlow? .flowMappingStart
    else if c = ']' then s.closeFlow? .flowSequenceEnd
    else if c = '\x7d' then s.closeFlow? .flowMappingEnd
    else if c = ',' then s.scanComma?
    else if c = '-' ∧ endsWord rest then s.scanItem?
    else if c = '?' ∧ (s.inFlow ∨ endsWord rest) then s.scanKey?
    else if c = ':' ∧ (s.inFlow ∨ endsWord rest) then s.scanValue?
    else if c = '*' then s.scanName? .alias
    else if c = '&' then s.scanName? .anchor
    else if c = '!' then s.scanTag?
    else if c = '|' ∧ !s.inFlow then s.scanBlock? false
    else if c = '>' ∧ !s.inFlow then s.scanBlock? true
    else if c = '\'' then s.scanQuoted? true
    else if c = '"' then s.scanQuoted? false
    else if Plain.startsWith s.inFlow text then s.scanPlain?
    else none

/-- The tokens from here to the end of the text.  Every token takes up some of the text. -/
def tokens? (s : Lexer) : Option (List Token) :=
  match s.advance? with
  | none => none
  | some here =>
    if here.cursor.rest.isEmpty then do
      return (← (here.endBlocks 0).dropCandidate?).tokens.reverse
    else
      match here.next? with
      | none => none
      | some behind =>
        if behind.cursor.rest.length < s.cursor.rest.length then behind.tokens? else none
termination_by s.cursor.rest.length

end Lexer

/-- **The tokens of a text**, if it is YAML. -/
def Token.ofText? (text : List Char) : Option (List Token) :=
  if text.all isReadable then Lexer.tokens? { cursor := ⟨unifyBreaks text, {}⟩ } else none

end MaskedInput.Yaml

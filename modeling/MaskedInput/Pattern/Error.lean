/-!
# What can be wrong with a pattern

A pattern is refused for one of six causes.  Offsets count characters; an unclosed group is
reported where it was opened, every other fault at the character that shows it.

* `Bracket` — the two kinds of group.
* `PatternError` — a cause with its offset, and its wording.
-/

namespace MaskedInput

/-- The brackets around a group: square ones, or curly ones for optional slots. -/
inductive Bracket where
  | square
  | curly
  deriving DecidableEq, Repr, Inhabited

namespace Bracket

def opening : Bracket → Char
  | square => '['
  | curly => '\x7b'

def closing : Bracket → Char
  | square => ']'
  | curly => '\x7d'

def other : Bracket → Bracket
  | square => curly
  | curly => square

end Bracket

inductive PatternError.Cause where
  | unterminatedEscape
  | unclosedBracket (bracket : Bracket)
  | nestedBracket (bracket : Bracket)
  | unmatchedBracket (bracket : Bracket)
  /-- A group is closed by the bracket of the other kind. -/
  | mismatchedBracket (expected : Bracket)
  | unknownSymbol (symbol : Char)
  deriving DecidableEq, Repr, Inhabited

/-- A refused pattern: the cause, and the offset of the character that it is about. -/
structure PatternError where
  cause : PatternError.Cause
  position : Nat
  deriving DecidableEq, Repr, Inhabited

namespace PatternError

/-- What happened, in the words of a message. -/
def Cause.message : Cause → List Char
  | unterminatedEscape => "unterminated escape".toList
  | unclosedBracket b => "unclosed '".toList ++ b.opening :: "' opened".toList
  | nestedBracket b => "nested '".toList ++ b.opening :: ['\'']
  | unmatchedBracket b => "unmatched '".toList ++ b.closing :: ['\'']
  | mismatchedBracket b =>
    "expected '".toList ++ b.closing :: "' but found '".toList ++ b.other.closing :: ['\'']
  | unknownSymbol c => "unknown symbol '".toList ++ c :: ['\'']

def message (e : PatternError) : List Char :=
  e.cause.message ++ " at offset ".toList ++ Nat.toDigits 10 e.position

end PatternError

end MaskedInput

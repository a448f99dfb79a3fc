/-!
# Records as JSON text

A record is printed as a JSON object over several lines, each member on a line of its own, two
spaces in, in the order of the record.  Only what JSON requires is escaped: the quote, the
backslash and the controls below U+0020, by their short names where JSON has one and as `u00`
and two lower-case hexadecimal digits otherwise.  All other characters stand for themselves.

* `Member` — the value of a member: a text, a count or a truth value.
* `encode` — a text between its quotes.
* `record` — the printed object.
-/

namespace MaskedInput.Text.Json

/-- The value of a member of a record. -/
inductive Member where
  | text (value : List Char)
  | count (value : Nat)
  | flag (value : Bool)
  deriving DecidableEq

/-- A character of a text as it stands between the quotes. -/
def escape (c : Char) : List Char :=
  match c with
  | '"' => ['\\', '"']
  | '\\' => ['\\', '\\']
  | '\x08' => ['\\', 'b']
  | '\t' => ['\\', 't']
  | '\n' => ['\\', 'n']
  | '\x0c' => ['\\', 'f']
  | '\r' => ['\\', 'r']
  | c =>
    if c.toNat < 0x20 then
      ['\\', 'u', '0', '0', Nat.digitChar (c.toNat / 16), Nat.digitChar (c.toNat % 16)]
    else [c]

def encode (text : List Char) : List Char := '"' :: text.flatMap escape ++ ['"']

def Member.render : Member → List Char
  | .text value => encode value
  | .count value => Nat.toDigits 10 value
  | .flag true => "true".toList
  | .flag false => "false".toList

/-- One line of the object, without its end. -/
def line (member : String × Member) : List Char :=
  ' ' :: ' ' :: encode member.1.toList ++ [':', ' '] ++ member.2.render

/-- A record with at least one member, over several lines. -/
def record (members : List (String × Member)) : List Char :=
  '\x7b' :: '\n' :: List.intercalate [',', '\n'] (members.map line) ++ ['\n', '\x7d']

end MaskedInput.Text.Json

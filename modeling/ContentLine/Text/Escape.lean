/-!
# Escaped text

The TEXT values of a content line write a backslash, a semicolon, a comma and a line feed as
two-character sequences. `escape` writes a text in that form and `unescape` reads it in one pass
from left to right, so an escaped backslash before an `n` is not taken for a line feed. A backslash
that starts no known sequence stands for itself.

## Main definitions

- `Text.escape`, `Text.unescape`: the two directions on strings.
- `Text.escapeChars`, `Text.unescapeChars`: the same on lists of characters.
-/

namespace ContentLine.Text

/-- The written form of one character. -/
def escapeChar : Char → List Char
  | '\\' => ['\\', '\\']
  | ';' => ['\\', ';']
  | ',' => ['\\', ',']
  | '\n' => ['\\', 'n']
  | c => [c]

/-- The character that a backslash and `c` stand for, if they form a known sequence. -/
def escapedBy? : Char → Option Char
  | '\\' => some '\\'
  | ';' => some ';'
  | ',' => some ','
  | 'n' => some '\n'
  | 'N' => some '\n'
  | _ => none

/-- Write every character in its written form. -/
def escapeChars (text : List Char) : List Char :=
  text.flatMap escapeChar

/-- Read the known sequences from left to right and keep everything else. -/
def unescapeChars : List Char → List Char
  | [] => []
  | [c] => [c]
  | b :: c :: rest =>
    if b = '\\' then
      match escapedBy? c with
      | some plain => plain :: unescapeChars rest
      | none => b :: unescapeChars (c :: rest)
    else b :: unescapeChars (c :: rest)

/-- The TEXT form of a string. -/
def escape (text : String) : String :=
  String.ofList (escapeChars text.toList)

/-- The string that a TEXT value stands for. -/
def unescape (value : String) : String :=
  String.ofList (unescapeChars value.toList)

@[simp] theorem escapeChars_nil : escapeChars [] = [] := rfl

@[simp] theorem escapeChars_cons (c : Char) (rest : List Char) :
    escapeChars (c :: rest) = escapeChar c ++ escapeChars rest := rfl

@[simp] theorem escapeChars_append (a b : List Char) :
    escapeChars (a ++ b) = escapeChars a ++ escapeChars b :=
  List.flatMap_append

@[simp] theorem toList_escape (text : String) :
    (escape text).toList = escapeChars text.toList :=
  String.toList_ofList

@[simp] theorem toList_unescape (value : String) :
    (unescape value).toList = unescapeChars value.toList :=
  String.toList_ofList

end ContentLine.Text

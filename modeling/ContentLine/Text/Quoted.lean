import ContentLine.Text.Decimal
import ContentLine.Text.Printable

/-!
# Quoted text

The unambiguous form in which texts appear in descriptions. The delimiter is the single quote unless
the text holds a single quote and no double quote. Inside, the backslash and the delimiter follow a
backslash, tab and the two line ends have short names, and every other unprintable character is
given by its code point in two, four or eight hexadecimal digits.

## Main definitions

- `Text.delimiter`: the quote a text is enclosed in.
- `Text.quoteChar`: the form of one character between given delimiters.
- `Text.quote`: the quoted form of a string.
-/

namespace ContentLine.Text

/-- The quote that encloses a text. -/
def delimiter (text : List Char) : Char :=
  if text.contains '\'' && !text.contains '"' then '"' else '\''

/-- An unprintable character by its code point, in the shortest of the three widths. -/
def codePoint (c : Char) : List Char :=
  let code := c.toNat
  if code < 0x100 then '\\' :: 'x' :: hexPadded 2 code
  else if code < 0x10000 then '\\' :: 'u' :: hexPadded 4 code
  else '\\' :: 'U' :: hexPadded 8 code

/-- The form of a character between two delimiters `mark`. -/
def quoteChar (mark c : Char) : List Char :=
  if c = '\\' ∨ c = mark then ['\\', c]
  else if c = '\t' then ['\\', 't']
  else if c = '\n' then ['\\', 'n']
  else if c = '\r' then ['\\', 'r']
  else if isPrintable c then [c]
  else codePoint c

/-- The quoted form of a list of characters. -/
def quoteChars (text : List Char) : List Char :=
  let mark := delimiter text
  mark :: text.flatMap (quoteChar mark) ++ [mark]

/-- The quoted form of a string. -/
def quote (text : String) : String :=
  String.ofList (quoteChars text.toList)

@[simp] theorem toList_quote (text : String) : (quote text).toList = quoteChars text.toList :=
  String.toList_ofList

end ContentLine.Text

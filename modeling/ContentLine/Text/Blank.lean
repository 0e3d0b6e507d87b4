/-!
# Blank characters

The characters that count as blank at either end of a value, and `trim`, which removes them there.
The class holds the Unicode white space characters and the four ASCII information separators.

## Main definitions

- `Text.isBlank`: membership in the class.
- `Text.trim`, `Text.trimChars`: a text without its blank ends.
-/

namespace ContentLine.Text

/-- Whether a character is white space or an information separator. -/
def isBlank (c : Char) : Bool :=
  let code := c.toNat
  (0x9 ≤ code && code ≤ 0xD) || (0x1C ≤ code && code ≤ 0x20) || code == 0x85 || code == 0xA0 ||
    code == 0x1680 || (0x2000 ≤ code && code ≤ 0x200A) || code == 0x2028 || code == 0x2029 ||
    code == 0x202F || code == 0x205F || code == 0x3000

/-- Remove the blank characters at the start. -/
def trimStart (text : List Char) : List Char :=
  text.dropWhile isBlank

/-- Remove the blank characters at the end. -/
def trimEnd (text : List Char) : List Char :=
  (text.reverse.dropWhile isBlank).reverse

/-- Remove the blank characters at both ends. -/
def trimChars (text : List Char) : List Char :=
  trimEnd (trimStart text)

/-- Remove the blank characters at both ends of a string. -/
def trim (text : String) : String :=
  String.ofList (trimChars text.toList)

@[simp] theorem toList_trim (text : String) : (trim text).toList = trimChars text.toList :=
  String.toList_ofList

end ContentLine.Text

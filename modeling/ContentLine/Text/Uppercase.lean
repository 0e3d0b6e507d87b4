import ContentLine.Text.CaseTable

/-!
# Upper case

Names are compared in upper case, by the full Unicode mapping: one character may become several, and
the result does not depend on its neighbours.

## Main definitions

- `Text.upperChar`: the upper case of one character.
- `Text.upper`: the upper case of a string.

## Main statements

- `Text.toList_upper`: a string is mapped character by character.
-/

namespace ContentLine.Text

/-- The upper case of a character, as a sequence. -/
def upperChar (c : Char) : List Char :=
  if c.toNat < 0x80 then [c.toUpper]
  else
    match caseExpansions.lookup c.toNat with
    | some codes => codes.map Char.ofNat
    | none =>
      match caseRuns.find? (·.covers c.toNat) with
      | some run => [Char.ofNat (c.toNat + run.shift).toNat]
      | none => [c]

/-- The upper case of a string. -/
def upper (text : String) : String :=
  String.ofList (text.toList.flatMap upperChar)

@[simp] theorem toList_upper (text : String) :
    (upper text).toList = text.toList.flatMap upperChar :=
  String.toList_ofList

end ContentLine.Text

import ContentLine.Proofs.Text.Escape
import Mathlib.Algebra.Ring.Parity

/-!
# Runs of backslashes

Escaped text is read from left to right in steps of one or two characters, yet what is read can be
told from each run of backslashes alone, wherever it stands. The backslashes of a run belong
together in pairs, and each pair is read as one backslash. Only the last backslash of a run of odd
length has no partner, and it is joined with the character behind the run.

## Main definitions

* `Text.Segment`, `Text.Runs`: a text cut behind each character that is no backslash.
* `Text.Runs.of`: the one way to cut a text like that.
* `Text.readRun`: what a run of backslashes and the character behind it are read as.

## Main results

* `Text.Runs.text_of`, `Text.Runs.of_text`: a text can be cut in exactly one way.
* `Text.unescapeChars_text`: a text is read run by run.
* `Text.unescape_eq_reading`: both together, for every text.
-/

namespace ContentLine.Text

/-! ## Cutting a text -/

/-- A character that is no backslash, with the run of all backslashes right before it. The run may
be empty. -/
structure Segment where
  /-- The length of the run. -/
  backslashes : Nat
  /-- The character behind the run. -/
  next : Char
  /-- The run does not go on. -/
  next_ne : next ≠ '\\'
deriving DecidableEq

/-- A text cut behind each character that is no backslash. What is left is a run of backslashes at
the end, which may be empty. -/
structure Runs where
  /-- The characters that are no backslashes, each with the run before it. -/
  segments : List Segment
  /-- The length of the run at the end. -/
  trailing : Nat
deriving DecidableEq

/-- The characters of a segment. -/
def Segment.text (segment : Segment) : List Char :=
  List.replicate segment.backslashes '\\' ++ [segment.next]

namespace Runs

/-- The text that was cut. -/
def text (runs : Runs) : List Char :=
  runs.segments.flatMap Segment.text ++ List.replicate runs.trailing '\\'

/-- One more backslash at the start, which makes the first run longer. -/
def addBackslash : Runs → Runs
  | ⟨[], trailing⟩ => ⟨[], trailing + 1⟩
  | ⟨first :: rest, trailing⟩ =>
    ⟨{ first with backslashes := first.backslashes + 1 } :: rest, trailing⟩

/-- One more character at the start. -/
def add (c : Char) (runs : Runs) : Runs :=
  if h : c = '\\' then runs.addBackslash
  else { runs with segments := ⟨0, c, h⟩ :: runs.segments }

/-- Cut a text. -/
def of (text : List Char) : Runs :=
  text.foldr add ⟨[], 0⟩

@[simp] theorem text_nil (trailing : Nat) :
    text ⟨[], trailing⟩ = List.replicate trailing '\\' := rfl

@[simp] theorem text_cons (first : Segment) (rest : List Segment) (trailing : Nat) :
    text ⟨first :: rest, trailing⟩ =
      List.replicate first.backslashes '\\' ++ first.next :: text ⟨rest, trailing⟩ := by
  simp [text, Segment.text]

@[simp] theorem of_nil : of [] = ⟨[], 0⟩ := rfl

@[simp] theorem of_cons (c : Char) (rest : List Char) : of (c :: rest) = (of rest).add c := rfl

/-- One more character at the start of the cut text stands at the start of the text. -/
theorem text_add (c : Char) (runs : Runs) : (runs.add c).text = c :: runs.text := by
  unfold add
  split
  next hbackslash =>
    subst hbackslash
    obtain ⟨segments, trailing⟩ := runs
    cases segments with
    | nil => simp [addBackslash, List.replicate_succ]
    | cons first rest => simp [addBackslash, List.replicate_succ]
  next => simp

/-- A text that is cut is all there. -/
theorem text_of (text : List Char) : (of text).text = text := by
  induction text with
  | nil => rfl
  | cons c rest ih => rw [of_cons, text_add, ih]

/-- A run of backslashes is cut off behind the character that ends it. -/
theorem of_replicate_append (first : Segment) (rest : List Char) :
    of (List.replicate first.backslashes '\\' ++ first.next :: rest) =
      ⟨first :: (of rest).segments, (of rest).trailing⟩ := by
  obtain ⟨backslashes, next, hnext⟩ := first
  dsimp only
  -- The last backslash of the run is put first, and each further one makes the run longer.
  induction backslashes with
  | zero => simp [add, hnext]
  | succ backslashes ih =>
    rw [List.replicate_succ, List.cons_append, of_cons, ih]
    rfl

/-- A run of backslashes at the end is left over. -/
theorem of_replicate (trailing : Nat) : of (List.replicate trailing '\\') = ⟨[], trailing⟩ := by
  induction trailing with
  | zero => rfl
  | succ trailing ih =>
    rw [List.replicate_succ, of_cons, ih]
    rfl

/-- There is no other way to cut a text. -/
theorem of_text (runs : Runs) : of runs.text = runs := by
  obtain ⟨segments, trailing⟩ := runs
  induction segments with
  | nil => exact of_replicate trailing
  | cons first rest ih => rw [text_cons, of_replicate_append, ih]

end Runs

/-! ## Reading a run -/

/-- What a backslash without a partner and the character behind it, if there is one, are read
as. -/
def readSingle : Option Char → List Char
  | some ';' => [';']
  | some ',' => [',']
  | some 'n' => ['\n']
  | some 'N' => ['\n']
  | some c => ['\\', c]
  | none => ['\\']

/-- What a run of backslashes and the character behind it, if there is one, are read as. Half of the
run is kept, and the character is changed only if the run is odd. -/
def readRun (backslashes : Nat) (next : Option Char) : List Char :=
  List.replicate (backslashes / 2) '\\' ++
    if backslashes % 2 = 0 then next.toList else readSingle next

/-- What a text is read as, run by run. -/
def Runs.reading (runs : Runs) : List Char :=
  (runs.segments.flatMap fun segment => readRun segment.backslashes (some segment.next)) ++
    readRun runs.trailing none

/-- A pair of backslashes is read as one, whatever follows. -/
theorem unescapeChars_pairs (pairs : Nat) (rest : List Char) :
    unescapeChars (List.replicate (2 * pairs) '\\' ++ rest) =
      List.replicate pairs '\\' ++ unescapeChars rest := by
  induction pairs with
  | zero => rfl
  | succ pairs ih =>
    have hpair : List.replicate (2 * (pairs + 1)) '\\' ++ rest =
        '\\' :: '\\' :: (List.replicate (2 * pairs) '\\' ++ rest) := rfl
    rw [hpair, unescapeChars_escaped rfl, ih, List.replicate_succ, List.cons_append]

/-- Without a backslash at the start, the first character stands for itself. -/
theorem unescapeChars_of_head? {text : List Char} (hhead : text.head? ≠ some '\\') :
    unescapeChars text = text.head?.toList ++ unescapeChars text.tail := by
  cases text with
  | nil => rfl
  | cons c rest =>
    have hplain : c ≠ '\\' := fun hbackslash => hhead (congrArg some hbackslash)
    exact unescapeChars_cons_of_ne hplain rest

/-- A backslash without a partner changes the characters that are codes. -/
theorem readSingle_of_code {next plain : Char} (hnext : next ≠ '\\')
    (hcode : escapedBy? next = some plain) : readSingle (some next) = [plain] := by
  unfold escapedBy? at hcode
  split at hcode
  · exact absurd rfl hnext
  all_goals cases hcode
  all_goals rfl

/-- A backslash without a partner leaves the characters that are no codes. -/
theorem readSingle_of_not_code {next : Char} (hcode : escapedBy? next = none) :
    readSingle (some next) = ['\\', next] := by
  unfold escapedBy? at hcode
  split at hcode
  all_goals cases hcode
  next hbackslash hsemicolon hcomma hlower hupper =>
    unfold readSingle
    split <;> simp_all

/-- A backslash without a partner is joined with the character behind it. -/
theorem unescapeChars_single {rest : List Char} (hhead : rest.head? ≠ some '\\') :
    unescapeChars ('\\' :: rest) = readSingle rest.head? ++ unescapeChars rest.tail := by
  cases rest with
  | nil => rfl
  | cons next rest =>
    have hnext : next ≠ '\\' := fun hbackslash => hhead (congrArg some hbackslash)
    dsimp only [List.head?_cons, List.tail_cons]
    cases hcode : escapedBy? next with
    | some plain =>
      rw [unescapeChars_escaped hcode, readSingle_of_code hnext hcode, List.singleton_append]
    | none =>
      -- The character is not taken, and is read next.
      rw [unescapeChars, if_pos rfl, hcode, readSingle_of_not_code hcode,
        unescapeChars_cons_of_ne hnext]
      rfl

/-- A run is read together with the character behind it, and what follows is read by itself. -/
theorem unescapeChars_run (backslashes : Nat) {rest : List Char}
    (hhead : rest.head? ≠ some '\\') :
    unescapeChars (List.replicate backslashes '\\' ++ rest) =
      readRun backslashes rest.head? ++ unescapeChars rest.tail := by
  obtain ⟨pairs, heven | hodd⟩ := Nat.even_or_odd' backslashes
  · -- All backslashes have partners, and the next character is read by itself.
    have hhalf : 2 * pairs / 2 = pairs := by omega
    have hpaired : 2 * pairs % 2 = 0 := by omega
    rw [heven, unescapeChars_pairs, unescapeChars_of_head? hhead, readRun, hhalf, if_pos hpaired,
      List.append_assoc]
  · -- The last backslash has no partner, so it comes before the next character.
    have hhalf : (2 * pairs + 1) / 2 = pairs := by omega
    have hsingle : (2 * pairs + 1) % 2 ≠ 0 := by omega
    rw [hodd, List.replicate_succ', List.append_assoc, List.singleton_append, unescapeChars_pairs,
      unescapeChars_single hhead, readRun, hhalf, if_neg hsingle, List.append_assoc]

/-- A text is read run by run. -/
theorem unescapeChars_text (runs : Runs) : unescapeChars runs.text = runs.reading := by
  obtain ⟨segments, trailing⟩ := runs
  induction segments with
  | nil =>
    have hend : ([] : List Char).head? ≠ some '\\' := by simp
    simpa [Runs.reading, unescapeChars] using unescapeChars_run trailing hend
  | cons first rest ih =>
    have hnext : (first.next :: Runs.text ⟨rest, trailing⟩).head? ≠ some '\\' := by
      simpa using first.next_ne
    rw [Runs.text_cons, unescapeChars_run first.backslashes hnext, List.tail_cons, ih]
    simp [Runs.reading]

/-- Every text is cut in exactly one way into characters that are no backslashes, each with the run
of backslashes before it, and a run at the end. It is read by reading each of these runs. -/
theorem unescape_eq_reading (s : String) :
    ∃ runs : Runs,
      runs.text = s.toList ∧ (∀ other : Runs, other.text = s.toList → other = runs) ∧
        unescape s = String.ofList runs.reading := by
  refine ⟨Runs.of s.toList, Runs.text_of s.toList, ?_, ?_⟩
  · intro other hother
    rw [← hother, Runs.of_text]
  · rw [unescape, ← unescapeChars_text, Runs.text_of]

/-- Three backslashes before an `n` are a backslash and a line feed, four are two backslashes and an
`n`; and a backslash at the end is kept. -/
example : ((Runs.of "\\\\\\n\\\\\\\\n\\".toList).segments.map (·.backslashes) = [3, 4]) ∧
    (Runs.of "\\\\\\n\\\\\\\\n\\".toList).reading = "\\\n\\\\n\\".toList := by decide

end ContentLine.Text

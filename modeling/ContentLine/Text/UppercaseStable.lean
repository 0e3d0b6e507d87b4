import ContentLine.Text.Uppercase

/-!
# Upper case is stable

No character of an upper case has another upper case. This is a property of the table: every run and
every sequence leads to code points that neither a run covers nor a sequence replaces.

## Main statements

- `Text.upperChar_of_mem`: a character that occurs in an upper case is its own upper case.
- `Text.upper_upper`: a name in upper case stays as it is.
-/

namespace ContentLine.Text

/-- The code point that a run maps a code point to. -/
def CaseRun.image (run : CaseRun) (code : Nat) : Nat :=
  (code + run.shift).toNat

/-- The code points of a run. -/
def CaseRun.codes (run : CaseRun) : List Nat :=
  (List.range ((run.last - run.first) / run.stride + 1)).map fun k => run.first + run.stride * k

/-- The run of the lower-case letters of ASCII. -/
def asciiRun : CaseRun :=
  ⟨0x61, 0x7A, 1, -32⟩

/-- Whether a code point has an upper case other than itself. -/
def isCased (code : Nat) : Bool :=
  asciiRun.covers code || caseRuns.any (·.covers code) || caseExpansions.any (·.1 == code)

/-- Whether the image of a run keeps clear of the code points from `first` to `last`, or else no
code point of the run is mapped to a code point with the property `hit`. -/
def CaseRun.misses (run : CaseRun) (first last : Nat) (hit : Nat → Bool) : Bool :=
  Nat.blt last (run.image run.first) || Nat.blt (run.image run.last) first ||
    run.codes.all fun code => !hit (run.image code)

/-- Whether a run maps to characters only, and to none that has an upper case. -/
def CaseRun.isSettled (run : CaseRun) : Bool :=
  run.misses 0xD800 0xDFFF (fun _ => true) && Nat.blt (run.image run.last) 0x110000 &&
    run.misses asciiRun.first asciiRun.last asciiRun.covers &&
    (caseRuns.all fun other => run.misses other.first other.last other.covers) &&
    caseExpansions.all fun entry => run.misses entry.1 entry.1 (entry.1 == ·)

/-- Whether a code point below the surrogates has no upper case. -/
def isSettledCode (code : Nat) : Bool :=
  Nat.blt code 0xD800 && !asciiRun.covers code &&
    (caseRuns.all fun run => Nat.blt run.last code || Nat.blt code run.first || !run.covers code) &&
    caseExpansions.all fun entry => !Nat.beq entry.1 code

/-! ## The table -/

theorem caseRuns_isSettled : caseRuns.all CaseRun.isSettled = true := by
  decide +kernel

theorem caseExpansions_isSettled :
    (caseExpansions.all fun entry => entry.2.all isSettledCode) = true := by
  decide +kernel

theorem caseRuns_notAscii : (caseRuns.all fun run => Nat.ble 0x80 run.first) = true := by
  decide +kernel

theorem caseExpansions_notAscii :
    (caseExpansions.all fun entry => Nat.ble 0x80 entry.1) = true := by
  decide +kernel

/-! ## Runs -/

namespace CaseRun

theorem le_of_covers {run : CaseRun} {code : Nat} (h : run.covers code = true) :
    run.first ≤ code ∧ code ≤ run.last := by
  simp only [covers, Bool.and_eq_true, decide_eq_true_eq] at h
  exact h.1

theorem mem_codes {run : CaseRun} {code : Nat} (h : run.covers code = true) :
    code ∈ run.codes := by
  obtain ⟨first, last⟩ := le_of_covers h
  simp only [covers, Bool.and_eq_true, beq_iff_eq] at h
  simp only [codes, List.mem_map, List.mem_range]
  -- The code point is as many strides from the first as the division says, without remainder.
  refine ⟨(code - run.first) / run.stride, ?_, ?_⟩
  · have := Nat.div_le_div_right (c := run.stride) (Nat.sub_le_sub_right last run.first)
    omega
  · have := Nat.div_add_mod (code - run.first) run.stride
    omega

theorem image_le_image (run : CaseRun) {a b : Nat} (h : a ≤ b) : run.image a ≤ run.image b := by
  simp only [image]
  omega

/-- What a run misses, no code point of the run is mapped to. -/
theorem hit_eq_false {run : CaseRun} {first last code : Nat} (hit : Nat → Bool)
    (misses : run.misses first last hit = true) (covers : run.covers code = true)
    (bounds : hit (run.image code) = true → first ≤ run.image code ∧ run.image code ≤ last) :
    hit (run.image code) = false := by
  obtain ⟨low, high⟩ := le_of_covers covers
  have low := image_le_image run low
  have high := image_le_image run high
  simp only [CaseRun.misses, Bool.or_eq_true, Nat.blt_eq, List.all_eq_true, Bool.not_eq_true']
    at misses
  -- Images keep the order of a run, so its ends bound them all; else each image was tested.
  rcases misses with (above | below) | none
  · exact Bool.eq_false_iff.2 fun h => by have := bounds h; omega
  · exact Bool.eq_false_iff.2 fun h => by have := bounds h; omega
  · exact none code (mem_codes covers)

/-- A settled run maps a code point to a character that has no upper case. -/
theorem image_settled {run : CaseRun} {code : Nat} (settled : run.isSettled = true)
    (covers : run.covers code = true) :
    (run.image code).isValidChar ∧ isCased (run.image code) = false := by
  simp only [isSettled, Bool.and_eq_true, List.all_eq_true, Nat.blt_eq] at settled
  obtain ⟨⟨⟨⟨surrogates, top⟩, ascii⟩, runs⟩, expansions⟩ := settled
  have high := image_le_image run (le_of_covers covers).2
  constructor
  · -- Valid code points are those up to the last, without the surrogates.
    by_cases inside : 0xD800 ≤ run.image code ∧ run.image code ≤ 0xDFFF
    · cases hit_eq_false (fun _ => true) surrogates covers fun _ => inside
    · simp only [Nat.isValidChar]
      omega
  · simp only [isCased, Bool.or_eq_false_iff, List.any_eq_false, Bool.not_eq_true]
    refine ⟨⟨hit_eq_false _ ascii covers le_of_covers, fun other member => ?_⟩,
      fun entry member => ?_⟩
    · exact hit_eq_false _ (runs other member) covers le_of_covers
    · refine hit_eq_false (entry.1 == ·) (expansions entry member) covers fun h => ?_
      simp only [beq_iff_eq] at h
      omega

end CaseRun

/-! ## Characters -/

theorem toNat_ofNat {code : Nat} (valid : code.isValidChar) : (Char.ofNat code).toNat = code := by
  rw [Char.ofNat, dif_pos valid]
  rfl

/-- A character without an entry in the table has no upper case. -/
theorem isCased_of_not_found {code : Nat} (notAscii : ¬code < 0x80)
    (expansion : caseExpansions.lookup code = none)
    (run : caseRuns.find? (·.covers code) = none) : isCased code = false := by
  rw [List.lookup_eq_none_iff] at expansion
  rw [List.find?_eq_none] at run
  simp only [isCased, Bool.or_eq_false_iff, List.any_eq_false]
  refine ⟨⟨Bool.eq_false_iff.2 fun h => ?_, run⟩, fun entry member h => ?_⟩
  · have : code ≤ 0x7A := (CaseRun.le_of_covers h).2
    omega
  · exact bne_iff_ne.1 (expansion entry member) (beq_iff_eq.1 h).symm

/-- A settled code point is a character that has no upper case. -/
theorem isCased_of_isSettledCode {code : Nat} (settled : isSettledCode code = true) :
    code.isValidChar ∧ isCased code = false := by
  simp only [isSettledCode, Bool.and_eq_true, List.all_eq_true, Nat.blt_eq, Bool.or_eq_true,
    Bool.not_eq_true'] at settled
  obtain ⟨⟨⟨below, ascii⟩, runs⟩, expansions⟩ := settled
  refine ⟨Or.inl below, ?_⟩
  simp only [isCased, Bool.or_eq_false_iff, List.any_eq_false, Bool.not_eq_true]
  refine ⟨⟨ascii, fun run member => ?_⟩, fun entry member => ?_⟩
  · rcases runs run member with (above | under) | uncovered
    · exact Bool.eq_false_iff.2 fun h => by have := CaseRun.le_of_covers h; omega
    · exact Bool.eq_false_iff.2 fun h => by have := CaseRun.le_of_covers h; omega
    · exact uncovered
  · refine Bool.eq_false_iff.2 fun h => ?_
    have apart := expansions entry member
    rw [← beq_iff_eq.1 h, Nat.beq_refl] at apart
    cases apart

/-- A character without another upper case is its own. -/
theorem upperChar_of_not_isCased {c : Char} (h : isCased c.toNat = false) : upperChar c = [c] := by
  simp only [isCased, Bool.or_eq_false_iff, List.any_eq_false, Bool.not_eq_true] at h
  obtain ⟨⟨ascii, runs⟩, expansions⟩ := h
  unfold upperChar
  split
  next below =>
    -- The letters of ASCII have no table; their few code points are tried one by one.
    have all : ∀ n < 0x80, asciiRun.covers n = false → (Char.ofNat n).toUpper = Char.ofNat n := by
      decide
    have same := all c.toNat below ascii
    rw [Char.ofNat_toNat] at same
    rw [same]
  next =>
    have expansion : caseExpansions.lookup c.toNat = none := by
      rw [List.lookup_eq_none_iff]
      intro entry member
      rw [bne_iff_ne, ne_comm]
      exact beq_eq_false_iff_ne.1 (expansions entry member)
    have run : caseRuns.find? (·.covers c.toNat) = none := by
      rw [List.find?_eq_none]
      intro run member covers
      rw [runs run member] at covers
      cases covers
    rw [expansion, run]

/-- The upper case of an ASCII character is an ASCII character and no lower-case letter. -/
theorem toNat_toUpper {c : Char} (h : c.toNat < 0x80) :
    c.toUpper.toNat < 0x80 ∧ ¬(0x61 ≤ c.toUpper.toNat ∧ c.toUpper.toNat ≤ 0x7A) := by
  have all : ∀ n < 0x80, (Char.ofNat n).toUpper.toNat < 0x80 ∧
      ¬(0x61 ≤ (Char.ofNat n).toUpper.toNat ∧ (Char.ofNat n).toUpper.toNat ≤ 0x7A) := by
    decide
  simpa using all c.toNat h

/-- An ASCII code point that is no lower-case letter has no upper case. -/
theorem isCased_of_ascii {code : Nat} (ascii : code < 0x80) (other : ¬(0x61 ≤ code ∧ code ≤ 0x7A)) :
    isCased code = false := by
  have runs := caseRuns_notAscii
  have expansions := caseExpansions_notAscii
  simp only [List.all_eq_true, Nat.ble_eq] at runs expansions
  simp only [isCased, Bool.or_eq_false_iff, List.any_eq_false, Bool.not_eq_true]
  refine ⟨⟨?_, fun run member => ?_⟩, fun entry member => ?_⟩
  · exact Bool.eq_false_iff.2 fun h => other (CaseRun.le_of_covers h)
  · refine Bool.eq_false_iff.2 fun h => ?_
    have := CaseRun.le_of_covers h
    have := runs run member
    omega
  · refine Bool.eq_false_iff.2 fun h => ?_
    have := beq_iff_eq.1 h
    have := expansions entry member
    omega

/-- A character that occurs in an upper case is its own upper case. -/
theorem upperChar_of_mem {c d : Char} (h : d ∈ upperChar c) : upperChar d = [d] := by
  -- The branch that gave the character tells where it stands: in ASCII, in a sequence of the table,
  -- at the image of a run, or where it was.
  apply upperChar_of_not_isCased
  unfold upperChar at h
  split at h
  next ascii =>
    rw [List.mem_singleton] at h
    subst h
    obtain ⟨below, other⟩ := toNat_toUpper ascii
    exact isCased_of_ascii below other
  next notAscii =>
    split at h
    next codes found =>
      obtain ⟨code, member, rfl⟩ := List.mem_map.1 h
      have table := caseExpansions_isSettled
      simp only [List.all_eq_true] at table
      obtain ⟨before, after, split, _⟩ := List.lookup_eq_some_iff.1 found
      have entry : (c.toNat, codes) ∈ caseExpansions := by
        rw [split]
        exact List.mem_append_right _ (List.mem_cons_self ..)
      obtain ⟨valid, settled⟩ := isCased_of_isSettledCode (table _ entry code member)
      rwa [toNat_ofNat valid]
    next notExpanded =>
      split at h
      next run found =>
        rw [List.mem_singleton] at h
        subst h
        have covers : run.covers c.toNat = true :=
          List.find?_some (p := fun other : CaseRun => other.covers c.toNat) found
        obtain ⟨valid, settled⟩ := CaseRun.image_settled
          (List.all_eq_true.1 caseRuns_isSettled run (List.mem_of_find?_eq_some found)) covers
        exact (toNat_ofNat valid).symm ▸ settled
      next notFound =>
        rw [List.mem_singleton] at h
        subst h
        exact isCased_of_not_found notAscii notExpanded notFound

/-- A name in upper case stays as it is. -/
@[simp] theorem upper_upper (text : String) : upper (upper text) = upper text := by
  have each (chars : List Char) (h : ∀ d ∈ chars, upperChar d = [d]) :
      chars.flatMap upperChar = chars := by
    induction chars with
    | nil => rfl
    | cons d rest ih =>
      rw [List.flatMap_cons, h d (List.mem_cons_self ..),
        ih fun e member => h e (List.mem_cons_of_mem _ member)]
      rfl
  apply String.toList_injective
  rw [toList_upper (upper text), toList_upper text]
  apply each
  intro d member
  obtain ⟨c, _, member⟩ := List.mem_flatMap.1 member
  exact upperChar_of_mem member

end ContentLine.Text

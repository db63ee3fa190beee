/-
# Letters under case mappings

Case mappings turn letters and digits into letters and digits, with two kinds of exceptions. The
small letter of a capital I with a dot keeps the dot as a combining mark, and the small letters
without a capital of their own become a capital with marks behind it. Marks are no letters.
-/

import TypedClient.Proofs.Text.Case

namespace TypedClient.Text

/-! ## Runs of letters -/

/-- The code that a case mapping moves a code to. -/
def CaseShift.image (shift : CaseShift) (code : Nat) : Nat :=
  ((code : Int) + shift.distance).toNat

namespace CodeRun

/-- Whether a run holds all that a case mapping makes of another run. -/
def holds (run : CodeRun) (shift : CaseShift) : Bool :=
  (shift.image shift.run.last).ble run.last && run.first.ble (shift.image shift.run.first) &&
    (shift.image shift.run.first - run.first) % run.stride == 0 &&
    shift.run.stride % run.stride == 0

theorem contains_image {run : CodeRun} {shift : CaseShift} (positive : 0 < run.first)
    (holds : run.holds shift = true) {code : Nat} (inRun : shift.run.contains code = true) :
    run.contains (shift.image code) = true := by
  unfold CodeRun.holds CaseShift.image at holds
  unfold contains CaseShift.image
  unfold contains at inRun
  simp only [Bool.and_eq_true, decide_eq_true_eq, beq_iff_eq, Nat.ble_eq] at holds inRun ⊢
  obtain ⟨⟨⟨below, above⟩, firstSteps⟩, strides⟩ := holds
  obtain ⟨⟨fromFirst, toLast⟩, steps⟩ := inRun
  refine ⟨⟨by omega, by omega⟩, Nat.mod_eq_zero_of_dvd ?_⟩
  -- From the first code of the run to the image of the other's first, and on to the image.
  have toFirst := Nat.dvd_of_mod_eq_zero firstSteps
  have toCode := (Nat.dvd_of_mod_eq_zero strides).trans (Nat.dvd_of_mod_eq_zero steps)
  have distance : ((code : Int) + shift.distance).toNat - run.first =
      (((shift.run.first : Int) + shift.distance).toNat - run.first) +
        (code - shift.run.first) := by
    omega
  rw [distance]
  exact Nat.dvd_add toFirst toCode

end CodeRun

/-- Letters, those of ASCII included. A few that a case mapping reaches in one run lie in two. -/
def letterRuns : List CodeRun :=
  ⟨0x41, 0x5a, 1⟩ :: ⟨0x61, 0x7a, 1⟩ :: ⟨0x1f59, 0x1f5f, 2⟩ :: alphabeticRuns

/-- Runs in blocks of a size, so that a search can pass over a block at a time. -/
def runBlocks (size : Nat) : (count : Nat) → List CodeRun → List (List CodeRun)
  | 0, runs => [runs]
  | count + 1, runs => runs.take size :: runBlocks size count (runs.drop size)

theorem mem_of_mem_runBlocks {size count : Nat} {runs block : List CodeRun} {run : CodeRun}
    (isBlock : block ∈ runBlocks size count runs) (inBlock : run ∈ block) : run ∈ runs := by
  induction count generalizing runs with
  | zero =>
    rw [List.mem_singleton.mp isBlock] at inBlock
    exact inBlock
  | succ count ih =>
    rcases List.mem_cons.mp isBlock with rfl | isBlock
    · exact List.mem_of_mem_take inBlock
    · exact List.mem_of_mem_drop (ih isBlock)

/-- Letters in blocks. -/
def letterBlocks : List (List CodeRun) :=
  letterRuns.take 3 :: runBlocks 28 26 alphabeticRuns

theorem mem_letterRuns_of_mem_letterBlocks {block : List CodeRun} {run : CodeRun}
    (isBlock : block ∈ letterBlocks) (inBlock : run ∈ block) : run ∈ letterRuns := by
  rcases List.mem_cons.mp isBlock with rfl | isBlock
  · exact List.mem_of_mem_take inBlock
  · have isRun := mem_of_mem_runBlocks isBlock inBlock
    exact List.mem_cons_of_mem _ (List.mem_cons_of_mem _ (List.mem_cons_of_mem _ isRun))

/-- Whether a case mapping maps a run to letters, found in a block that reaches far enough. -/
def CaseShift.landsOnLetters (shift : CaseShift) : Bool :=
  letterBlocks.any fun block =>
    (block.getLast?.any fun run => (shift.image shift.run.last).ble run.last) &&
      block.any (·.holds shift)

/-- The codes of letters are characters, and beyond those of ASCII there are no surrogates. -/
theorem alphabeticRuns_valid : ∀ run ∈ alphabeticRuns, 0x80 ≤ run.first ∧
    (run.last < 0xd800 ∨ 0xdfff < run.first ∧ run.last < 0x110000) := by
  decide +kernel

theorem positive_letterRuns {run : CodeRun} (isRun : run ∈ letterRuns) : 0 < run.first := by
  simp only [letterRuns, List.mem_cons] at isRun
  rcases isRun with rfl | rfl | rfl | isRun
  · decide
  · decide
  · decide
  · exact Nat.lt_of_lt_of_le (by decide) (alphabeticRuns_valid run isRun).1

theorem isAlphabetic_ofNat_of_beyond {code : Nat} (beyond : 0x80 ≤ code)
    (valid : code < 0xd800 ∨ 0xdfff < code ∧ code < 0x110000) :
    isAlphabetic (Char.ofNat code) = CodeRun.anyContains alphabeticRuns code := by
  have isChar : code.isValidChar := by
    unfold Nat.isValidChar
    omega
  have same : (Char.ofNat code).toNat = code := by rw [Char.toNat_ofNat, if_pos isChar]
  have notAscii : isAscii (Char.ofNat code) = false := by
    rw [isAscii, same, decide_eq_false_iff_not]
    omega
  rw [isAlphabetic, notAscii, if_neg Bool.false_ne_true, same]

theorem isAlphabetic_ofNat {run : CodeRun} (isRun : run ∈ letterRuns) {code : Nat}
    (inRun : run.contains code = true) : isAlphabetic (Char.ofNat code) = true := by
  have bounds : run.first ≤ code ∧ code ≤ run.last := by
    simp only [CodeRun.contains, Bool.and_eq_true, decide_eq_true_eq] at inRun
    exact inRun.1
  rcases List.mem_cons.mp isRun with rfl | isRun
  · have capitals : ∀ code ≤ 0x5a, 0x41 ≤ code → isAlphabetic (Char.ofNat code) = true := by decide
    exact capitals code bounds.2 bounds.1
  rcases List.mem_cons.mp isRun with rfl | isRun
  · have smalls : ∀ code ≤ 0x7a, 0x61 ≤ code → isAlphabetic (Char.ofNat code) = true := by decide
    exact smalls code bounds.2 bounds.1
  rcases List.mem_cons.mp isRun with rfl | isRun
  · have split : ∀ offset ≤ 6, CodeRun.contains ⟨0x1f59, 0x1f5f, 2⟩ (0x1f59 + offset) = true →
        isAlphabetic (Char.ofNat (0x1f59 + offset)) = true := by
      decide +kernel
    obtain ⟨offset, rfl⟩ := Nat.exists_eq_add_of_le bounds.1
    exact split offset (Nat.le_of_add_le_add_left bounds.2) inRun
  · obtain ⟨beyond, valid⟩ := alphabeticRuns_valid run isRun
    rw [isAlphabetic_ofNat_of_beyond (by omega) (by omega)]
    exact List.any_eq_true.mpr ⟨run, isRun, inRun⟩

theorem CaseShift.isAlphabetic_image {shift : CaseShift} (lands : shift.landsOnLetters = true)
    {code : Nat} (inRun : shift.run.contains code = true) :
    isAlphabetic (Char.ofNat (shift.image code)) = true := by
  obtain ⟨block, isBlock, found⟩ := List.any_eq_true.mp lands
  obtain ⟨run, inBlock, holds⟩ := List.any_eq_true.mp (Bool.and_eq_true_iff.mp found).2
  have isRun := mem_letterRuns_of_mem_letterBlocks isBlock inBlock
  exact isAlphabetic_ofNat isRun
    (CodeRun.contains_image (positive_letterRuns isRun) holds inRun)

/-- Whether a code is a letter's, as a run of its own that is not moved. -/
def isLetterCode (code : Nat) : Bool :=
  CaseShift.landsOnLetters ⟨⟨code, code, 1⟩, 0⟩

theorem isAlphanumeric_of_isLetterCode {code : Nat} (isLetter : isLetterCode code = true) :
    isAlphanumeric (Char.ofNat code) = true := by
  have inRun : CodeRun.contains ⟨code, code, 1⟩ code = true := by simp [CodeRun.contains]
  have letter := CaseShift.isAlphabetic_image isLetter inRun
  rw [CaseShift.image, Int.add_zero, Int.toNat_natCast] at letter
  rw [isAlphanumeric, letter, Bool.true_or]

theorem shifts_letters : (lowerShifts ++ upperShifts).all CaseShift.landsOnLetters = true := by
  decide +kernel

/-! ## Characters -/

/-- The combining marks that case mappings bring in. -/
def combiningMarks : List Char :=
  [0x300, 0x301, 0x307, 0x308, 0x30a, 0x30c, 0x313, 0x331, 0x342].map Char.ofNat

/-- The capital I with a dot, whose small letter keeps the dot as a mark. -/
def dottedCapital : Char := Char.ofNat 0x130

/-- The small letters without a capital of their own: a capital with marks stands for it. -/
def markedSmalls : List Char :=
  [0x1f0, 0x390, 0x3b0, 0x1e96, 0x1e97, 0x1e98, 0x1e99, 0x1f50, 0x1f52, 0x1f54, 0x1f56, 0x1fb6,
    0x1fb7, 0x1fc6, 0x1fc7, 0x1fd2, 0x1fd3, 0x1fd6, 0x1fd7, 0x1fe2, 0x1fe3, 0x1fe4, 0x1fe6, 0x1fe7,
    0x1ff6, 0x1ff7].map Char.ofNat

/-- No mark is a letter or digit. -/
theorem isAlphanumeric_of_mem_combiningMarks :
    ∀ mark ∈ combiningMarks, isAlphanumeric mark = false := by
  have known : (combiningMarks.all fun mark => !isAlphanumeric mark) = true := by decide +kernel
  simpa using known

/-- Whether expansions bring in marks for some characters only, and letters otherwise. -/
def bringsMarksFor (marked : List Char) (expansions : List (Nat × List Nat)) : Bool :=
  expansions.all fun expansion => expansion.2.all fun code =>
    marked.contains (Char.ofNat expansion.1) && combiningMarks.contains (Char.ofNat code) ||
      isLetterCode code

theorem expansions_marks : (bringsMarksFor [dottedCapital] lowerExpansions &&
    bringsMarksFor markedSmalls upperExpansions) = true := by
  decide +kernel

variable {c mapped : Char}

theorem isAlphanumeric_toLower (letter : isAlphanumeric c = true) :
    isAlphanumeric c.toLower = true := by
  by_cases isUpper : c.isUpper = true
  · have bounds : 0x41 ≤ c.toNat ∧ c.toNat ≤ 0x5a := by
      simpa [Char.isUpper, UInt32.le_iff_toNat_le] using isUpper
    have isSmall : CodeRun.contains ⟨0x61, 0x7a, 1⟩ (c.toNat + 32) = true := by
      simp only [CodeRun.contains, Nat.mod_one, Bool.and_eq_true, decide_eq_true_eq]
      exact ⟨⟨by omega, by omega⟩, rfl⟩
    have isRun : (⟨0x61, 0x7a, 1⟩ : CodeRun) ∈ letterRuns := by simp [letterRuns]
    rw [Char.toLower_eq_of_isUpper isUpper, isAlphanumeric, isAlphabetic_ofNat isRun isSmall,
      Bool.true_or]
  · rwa [Char.toLower_eq_of_not_isUpper isUpper]

theorem isAlphanumeric_toUpper (letter : isAlphanumeric c = true) :
    isAlphanumeric c.toUpper = true := by
  by_cases isLower : c.isLower = true
  · have bounds : 0x61 ≤ c.toNat ∧ c.toNat ≤ 0x7a := by
      simpa [Char.isLower, UInt32.le_iff_toNat_le] using isLower
    have isCapital : CodeRun.contains ⟨0x41, 0x5a, 1⟩ (c.toNat - 32) = true := by
      simp only [CodeRun.contains, Nat.mod_one, Bool.and_eq_true, decide_eq_true_eq]
      exact ⟨⟨by omega, by omega⟩, rfl⟩
    have isRun : (⟨0x41, 0x5a, 1⟩ : CodeRun) ∈ letterRuns := by simp [letterRuns]
    rw [Char.toUpper_eq_of_isLower isLower, isAlphanumeric, isAlphabetic_ofNat isRun isCapital,
      Bool.true_or]
  · rwa [Char.toUpper_eq_of_not_isLower isLower]

/-- Letters and digits are mapped to letters and digits, but for the marks of expansions. -/
theorem mem_applyCase_letter {marked : List Char} {expansions : List (Nat × List Nat)}
    {shifts : List CaseShift} (brings : bringsMarksFor marked expansions = true)
    (among : ∀ shift ∈ shifts, shift ∈ lowerShifts ++ upperShifts)
    (letter : isAlphanumeric c = true) (isMapped : mapped ∈ applyCase expansions shifts c) :
    isAlphanumeric mapped = true ∨ c ∈ marked ∧ mapped ∈ combiningMarks := by
  rcases mem_applyCase_cases isMapped with
    ⟨codes, isExpansion, code, isCode, rfl⟩ | ⟨shift, isShift, inRun, rfl⟩ | rfl
  · have ofCode := List.all_eq_true.mp (List.all_eq_true.mp brings _ isExpansion) code isCode
    rw [Char.ofNat_toNat, Bool.or_eq_true] at ofCode
    exact ofCode.symm.imp isAlphanumeric_of_isLetterCode (by simp)
  · have lands := List.all_eq_true.mp shifts_letters shift (among shift isShift)
    have isLetter := CaseShift.isAlphabetic_image lands inRun
    exact Or.inl (by rw [isAlphanumeric, ← CaseShift.image, isLetter, Bool.true_or])
  · exact Or.inl letter

/-- In lower case a letter or digit stays one, but for the mark of a capital I with a dot. -/
theorem mem_lowerOf_cases (letter : isAlphanumeric c = true) (isMapped : mapped ∈ lowerOf c) :
    isAlphanumeric mapped = true ∨ c = dottedCapital ∧ mapped ∈ combiningMarks := by
  unfold lowerOf at isMapped
  split at isMapped
  · rw [List.mem_singleton.mp isMapped]
    exact Or.inl (isAlphanumeric_toLower letter)
  · have brings := (Bool.and_eq_true_iff.mp expansions_marks).1
    simpa using mem_applyCase_letter brings (fun _ => List.mem_append_left _) letter isMapped

/-- In upper case a letter or digit stays one, but for the marks of small letters without a
capital. -/
theorem mem_upperOf_cases (letter : isAlphanumeric c = true) (isMapped : mapped ∈ upperOf c) :
    isAlphanumeric mapped = true ∨ c ∈ markedSmalls ∧ mapped ∈ combiningMarks := by
  unfold upperOf at isMapped
  split at isMapped
  · rw [List.mem_singleton.mp isMapped]
    exact Or.inl (isAlphanumeric_toUpper letter)
  · have brings := (Bool.and_eq_true_iff.mp expansions_marks).2
    exact mem_applyCase_letter brings (fun _ => List.mem_append_right _) letter isMapped

theorem exists_mark_lowerOf : ∃ mark ∈ lowerOf dottedCapital, mark ∈ combiningMarks :=
  ⟨Char.ofNat 0x307, by decide, by decide⟩

theorem exists_mark_upperOf :
    ∀ c ∈ markedSmalls, ∃ mark ∈ upperOf c, mark ∈ combiningMarks := by
  have known : (markedSmalls.all fun c => (upperOf c).any combiningMarks.contains) = true := by
    decide +kernel
  simpa using known

end TypedClient.Text

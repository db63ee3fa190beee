/-
# Case and ASCII letters

Lower case holds no ASCII capitals and upper case no small ASCII letters, whatever the text: the
tables map some characters beyond ASCII onto ASCII letters, but onto letters of the right case. No
character goes away under a case mapping.
-/

import Mathlib
import TypedClient.Text.Case

namespace TypedClient.Text

/-! ## Tables -/

section Tables

variable {low high : Nat} {expansions : List (Nat × List Nat)} {shifts : List CaseShift}

/-- A code outside a range of small codes stays outside as a character. -/
theorem toNat_ofNat_outside (positive : 0 < low) {code : Nat}
    (outside : code < low ∨ high < code) :
    (Char.ofNat code).toNat < low ∨ high < (Char.ofNat code).toNat := by
  rw [Char.toNat_ofNat]
  split
  · exact outside
  · exact Or.inl positive

/-- A mapped character stands in an expansion, is shifted, or is the character itself. -/
theorem mem_applyCase_cases {c mapped : Char} (isMapped : mapped ∈ applyCase expansions shifts c) :
    (∃ codes, (c.toNat, codes) ∈ expansions ∧ ∃ code ∈ codes, mapped = Char.ofNat code) ∨
    (∃ shift ∈ shifts, shift.run.contains c.toNat = true ∧
      mapped = Char.ofNat ((c.toNat : Int) + shift.distance).toNat) ∨
    mapped = c := by
  unfold applyCase at isMapped
  split at isMapped
  · rename_i codes isExpansion
    obtain ⟨code, isCode, rfl⟩ := List.mem_map.mp isMapped
    obtain ⟨before, after, rfl, -⟩ := List.lookup_eq_some_iff.mp isExpansion
    exact Or.inl ⟨codes, List.mem_append_right _ List.mem_cons_self, code, isCode, rfl⟩
  · split at isMapped
    · rename_i shift isShift
      exact Or.inr (Or.inl ⟨shift, List.mem_of_find?_eq_some isShift,
        by simpa using List.find?_some isShift, List.mem_singleton.mp isMapped⟩)
    · exact Or.inr (Or.inr (List.mem_singleton.mp isMapped))

/-- A case mapping whose tables leave out a range of ASCII maps nothing beyond ASCII into it. -/
theorem toNat_outside_of_mem_applyCase (positive : 0 < low) (plain : high < 0x80)
    (expanded : ∀ expansion ∈ expansions, ∀ code ∈ expansion.2, code < low ∨ high < code)
    (shifted : ∀ shift ∈ shifts,
      shift.run.last + shift.distance < low ∨ (high : Int) < shift.run.first + shift.distance)
    {c mapped : Char} (beyond : isAscii c = false)
    (isMapped : mapped ∈ applyCase expansions shifts c) :
    mapped.toNat < low ∨ high < mapped.toNat := by
  rcases mem_applyCase_cases isMapped with
    ⟨codes, isExpansion, code, isCode, rfl⟩ | ⟨shift, isShift, inRun, rfl⟩ | rfl
  · exact toNat_ofNat_outside positive (expanded _ isExpansion code isCode)
  · simp only [CodeRun.contains, Bool.and_eq_true, decide_eq_true_eq] at inRun
    have away := shifted shift isShift
    exact toNat_ofNat_outside positive (by omega)
  · simp only [isAscii, decide_eq_false_iff_not] at beyond
    exact Or.inr (by omega)

theorem applyCase_ne_nil (expanded : ∀ expansion ∈ expansions, expansion.2 ≠ []) (c : Char) :
    applyCase expansions shifts c ≠ [] := by
  unfold applyCase
  split
  · rename_i codes isExpansion
    obtain ⟨before, after, rfl, -⟩ := List.lookup_eq_some_iff.mp isExpansion
    have nonempty := expanded _ (List.mem_append_right before List.mem_cons_self)
    exact fun isEmpty => nonempty (List.map_eq_nil_iff.mp isEmpty)
  · split <;> exact List.cons_ne_nil _ _

end Tables

/-! ## Characters -/

theorem isUpper_eq_false_of_toNat {c : Char} (outside : c.toNat < 0x41 ∨ 0x5a < c.toNat) :
    c.isUpper = false := by
  simp only [Char.isUpper, UInt32.le_iff_toNat_le, decide_eq_false_iff_not]
  change ¬ (0x41 ≤ c.toNat ∧ c.toNat ≤ 0x5a)
  omega

theorem isLower_eq_false_of_toNat {c : Char} (outside : c.toNat < 0x61 ∨ 0x7a < c.toNat) :
    c.isLower = false := by
  simp only [Char.isLower, UInt32.le_iff_toNat_le, Bool.and_eq_false_iff, decide_eq_false_iff_not]
  change ¬ 0x61 ≤ c.toNat ∨ ¬ c.toNat ≤ 0x7a
  omega

set_option maxRecDepth 4000 in
theorem lowerShifts_outside : ∀ shift ∈ lowerShifts,
    shift.run.last + shift.distance < (0x41 : Nat) ∨
      ((0x5a : Nat) : Int) < shift.run.first + shift.distance := by
  decide

set_option maxRecDepth 4000 in
theorem upperShifts_outside : ∀ shift ∈ upperShifts,
    shift.run.last + shift.distance < (0x61 : Nat) ∨
      ((0x7a : Nat) : Int) < shift.run.first + shift.distance := by
  decide

/-- No character of the lower case is an ASCII capital. -/
theorem isUpper_of_mem_lowerOf {c mapped : Char} (isMapped : mapped ∈ lowerOf c) :
    mapped.isUpper = false := by
  unfold lowerOf at isMapped
  split at isMapped
  · rw [List.mem_singleton.mp isMapped]
    exact Char.isUpper_toLower_eq_false c
  · rename_i beyond
    exact isUpper_eq_false_of_toNat (toNat_outside_of_mem_applyCase (by decide) (by decide)
      (by decide) lowerShifts_outside (eq_false_of_ne_true beyond) isMapped)

/-- No character of the upper case is a small ASCII letter. -/
theorem isLower_of_mem_upperOf {c mapped : Char} (isMapped : mapped ∈ upperOf c) :
    mapped.isLower = false := by
  unfold upperOf at isMapped
  split at isMapped
  · rw [List.mem_singleton.mp isMapped]
    exact Char.isLower_toUpper_eq_false c
  · rename_i beyond
    exact isLower_eq_false_of_toNat (toNat_outside_of_mem_applyCase (by decide) (by decide)
      (by decide) upperShifts_outside (eq_false_of_ne_true beyond) isMapped)

theorem lowerOf_ne_nil (c : Char) : lowerOf c ≠ [] := by
  unfold lowerOf
  split
  · exact List.cons_ne_nil _ _
  · exact applyCase_ne_nil (by decide) c

theorem upperOf_ne_nil (c : Char) : upperOf c ≠ [] := by
  unfold upperOf
  split
  · exact List.cons_ne_nil _ _
  · exact applyCase_ne_nil (by decide) c

/-! ## Texts -/

/-- The lower case of a text holds no ASCII capital. -/
theorem isUpper_of_mem_lowercaseAfter {before cs : List Char} {c : Char}
    (member : c ∈ lowercaseAfter before cs) : c.isUpper = false := by
  induction cs generalizing before with
  | nil => cases member
  | cons first rest ih =>
    unfold lowercaseAfter at member
    split at member
    · rcases List.mem_cons.mp member with rfl | inRest
      · split <;> decide
      · exact ih inRest
    · rcases List.mem_append.mp member with inFirst | inRest
      · exact isUpper_of_mem_lowerOf inFirst
      · exact ih inRest

theorem lowercase_ne_nil {cs : List Char} (nonempty : cs ≠ []) : lowercase cs ≠ [] := by
  obtain ⟨first, rest, rfl⟩ := List.exists_cons_of_ne_nil nonempty
  unfold lowercase lowercaseAfter
  split
  · exact List.cons_ne_nil _ _
  · exact fun isEmpty => lowerOf_ne_nil first (List.append_eq_nil_iff.mp isEmpty).1

/-! ## Texts of ASCII -/

section Ascii

variable {cs : List Char} {c : Char}

theorem lowerOf_of_isAscii (ascii : isAscii c = true) : lowerOf c = [c.toLower] :=
  if_pos ascii

theorem upperOf_of_isAscii (ascii : isAscii c = true) : upperOf c = [c.toUpper] :=
  if_pos ascii

/-- A text of ASCII has no capital whose lower case depends on its place. -/
theorem lowercaseAfter_of_isAscii (ascii : ∀ c ∈ cs, isAscii c = true) (before : List Char) :
    lowercaseAfter before cs = cs.map Char.toLower := by
  induction cs generalizing before with
  | nil => rfl
  | cons c rest ih =>
    obtain ⟨first, others⟩ := List.forall_mem_cons.mp ascii
    have notSigma : ¬ (c == capitalSigma) = true := by
      rw [beq_iff_eq]
      rintro rfl
      exact absurd first (by decide)
    rw [lowercaseAfter, if_neg notSigma, lowerOf_of_isAscii first, ih others]
    rfl

theorem lowercase_of_isAscii (ascii : ∀ c ∈ cs, isAscii c = true) :
    lowercase cs = cs.map Char.toLower :=
  lowercaseAfter_of_isAscii ascii []

end Ascii

end TypedClient.Text

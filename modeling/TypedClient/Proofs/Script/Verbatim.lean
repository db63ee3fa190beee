/-
# Texts that are read as they are

A text that is put between double quotes without any escapes is read back only if it needs none. A
quote in it ends the literal too early, or takes part in an escape; a backslash makes one character
of several; and a line terminator may not stand in a literal at all. So the texts that are read as
they are written are exactly those without these characters, whatever comes after the closing quote.
-/

import TypedClient.Proofs.Layout.Literal

namespace TypedClient.Script

variable {text value rest path after : List Char} {skip length : Nat}

/-! ## What an escape takes -/

theorem length_of_hexEscape? {digits : List Char} (named : hexEscape? digits = some value) :
    value.length = 1 := by
  obtain ⟨_, -, rfl⟩ := Option.map_eq_some_iff.mp named
  rfl

/-- An escape stands for no more characters than it takes. -/
theorem length_le_of_escape? (escape : escape? text = some (value, length)) :
    value.length ≤ length := by
  unfold escape? at escape
  split at escape
  case h_7 =>
    split at escape <;> cases escape
    exact le_rfl
  case h_8 =>
    obtain ⟨_, named, same⟩ := Option.map_eq_some_iff.mp escape
    cases same
    rw [length_of_hexEscape? named]
    decide
  case h_9 =>
    simp only at escape
    split at escape
    · cases escape
    · obtain ⟨_, named, same⟩ := Option.map_eq_some_iff.mp escape
      cases same
      rw [length_of_hexEscape? named]
      omega
  case h_10 =>
    obtain ⟨_, named, same⟩ := Option.map_eq_some_iff.mp escape
    cases same
    rw [length_of_hexEscape? named]
    decide
  case h_12 =>
    split at escape
    · cases escape
      exact Nat.zero_le 1
    · split at escape <;> cases escape
      exact le_rfl
  case h_13 => cases escape
  -- The escapes of one letter, and the line end of two characters.
  all_goals
    cases escape
    decide

/-- An escape takes a quote only if it stands for one. -/
theorem count_quote_of_escape? (escape : escape? text = some (value, length)) :
    (text.take length).count '"' ≤ value.count '"' := by
  obtain ⟨c, left, taken, plain⟩ := Layout.exists_take_of_escape? escape
  have noQuote : '"' ∉ left := fun member =>
    absurd (List.all_eq_true.mp plain '"' member) (by decide)
  rw [taken, List.count_cons, List.count_eq_zero_of_not_mem noQuote]
  by_cases isQuote : c = '"'
  · subst isQuote
    obtain ⟨others, rfl⟩ : ∃ others, text = '"' :: others := by
      cases text with
      | nil => simp at taken
      | cons d others =>
          cases length with
          | zero => cases taken
          | succ length =>
              rw [List.take_succ_cons, List.cons.injEq] at taken
              exact ⟨others, by rw [taken.1]⟩
    have quoted : escape? ('"' :: others) = some (['"'], 1) := rfl
    cases quoted.symm.trans escape
    decide
  · simp [isQuote]

/-! ## What a literal takes -/

/-- Characters that stand in a literal for themselves. -/
def IsVerbatim (text : List Char) : Prop :=
  ∀ c ∈ text, c ≠ '"' ∧ c ≠ '\\' ∧ isLineTerminator c = false

instance : DecidablePred IsVerbatim := fun text => List.decidableBAll _ text

/-- What stands between the quotes of a literal is at least as long as the value, has no more quotes
than the value, and is the value itself if it is no longer. The induction is the reader's, with the
characters of an escape in front that are still to be skipped. -/
theorem exists_taken_of_readStringFrom (read : readStringFrom skip text = some (value, rest)) :
    ∃ taken, text = taken ++ '"' :: rest ∧ value.length + skip ≤ taken.length ∧
      (taken.drop skip).count '"' ≤ value.count '"' ∧
      (taken.length = value.length + skip → taken.drop skip = value ∧ IsVerbatim value) := by
  fun_induction readStringFrom skip text generalizing value with
  | case1 => cases read
  | case2 skip c text ih =>
      obtain ⟨taken, rfl, longer, quotes, verbatim⟩ := ih read
      refine ⟨c :: taken, rfl, Nat.succ_le_succ longer, quotes, fun same => ?_⟩
      exact verbatim (Nat.succ.inj same)
  | case3 text =>
      cases read
      exact ⟨[], rfl, le_rfl, le_rfl, fun _ => ⟨rfl, List.forall_mem_nil _⟩⟩
  | case4 text escaped length escape ih =>
      obtain ⟨⟨others, _⟩, readRest, same⟩ := Option.map_eq_some_iff.mp read
      cases same
      obtain ⟨taken, rfl, longer, quotes, -⟩ := ih readRest
      have shorter := length_le_of_escape? escape
      have inEscape := count_quote_of_escape? escape
      rw [List.take_append_of_le_length (by omega)] at inEscape
      refine ⟨'\\' :: taken, rfl, ?_, ?_, fun same => ?_⟩
      · simp only [List.length_append, List.length_cons]
        omega
      · have parts := congrArg (List.count '"') (List.take_append_drop length taken)
        simp only [List.count_append, List.drop_zero] at parts ⊢
        rw [List.count_cons_of_ne (by decide), ← parts]
        omega
      · simp only [List.length_append, List.length_cons] at same
        omega
  | case5 => cases read
  | case6 => cases read
  | case7 c text notQuote notBackslash inLine ih =>
      obtain ⟨⟨others, _⟩, readRest, same⟩ := Option.map_eq_some_iff.mp read
      cases same
      obtain ⟨taken, rfl, longer, quotes, verbatim⟩ := ih readRest
      have isPlain : c ≠ '"' ∧ c ≠ '\\' ∧ isLineTerminator c = false :=
        ⟨notQuote, notBackslash, Bool.eq_false_iff.mpr inLine⟩
      refine ⟨c :: taken, rfl, Nat.succ_le_succ longer, ?_, fun same => ?_⟩
      · simpa [List.count_cons_of_ne notQuote] using quotes
      · obtain ⟨rfl, plain⟩ := verbatim (Nat.succ.inj same)
        exact ⟨rfl, List.forall_mem_cons.mpr ⟨isPlain, plain⟩⟩

/-- A text without quotes, backslashes and line terminators is read up to its end. -/
theorem readStringFrom_of_isVerbatim (verbatim : IsVerbatim path) (rest : List Char) :
    readStringFrom 0 (path ++ rest) = (readStringFrom 0 rest).map (prepend path) := by
  induction path with
  | nil => exact (map_prepend_nil _).symm
  | cons c path ih =>
      obtain ⟨⟨notQuote, notBackslash, inLine⟩, others⟩ := List.forall_mem_cons.mp verbatim
      rw [List.cons_append, readStringFrom_cons notQuote notBackslash inLine, ih others,
        map_prepend_prepend]
      rfl

theorem readString_of_isVerbatim (verbatim : IsVerbatim path) :
    readString ('"' :: (path ++ '"' :: after)) = some (path, after) := by
  rw [readString, readStringFrom_of_isVerbatim verbatim]
  simp [readStringFrom, prepend]

/-- Between quotes, exactly the texts that need no escapes are read as they are. -/
theorem readString_eq_self_iff : (∃ rest, readString ('"' :: (path ++ '"' :: after)) =
    some (path, rest)) ↔ IsVerbatim path := by
  refine ⟨?_, fun verbatim => ⟨after, readString_of_isVerbatim verbatim⟩⟩
  rintro ⟨rest, read⟩
  obtain ⟨taken, isText, longer, quotes, verbatim⟩ := exists_taken_of_readStringFrom read
  have same : taken.length = path.length := by
    by_contra differs
    have goesOn : (path ++ ['"']).length ≤ taken.length := by
      rw [List.length_append, List.length_singleton]
      omega
    obtain ⟨left, isLeft⟩ : path ++ ['"'] <+: taken :=
      List.prefix_of_prefix_length_le ⟨after, by rw [List.append_assoc]; rfl⟩
        ⟨'"' :: rest, isText.symm⟩ goesOn
    -- Reading goes beyond the quote that is to close the literal, so it stands for one more.
    rw [← isLeft] at quotes
    simp only [List.drop_zero, List.count_append, List.count_singleton_self] at quotes
    omega
  exact (verbatim same).2

end TypedClient.Script

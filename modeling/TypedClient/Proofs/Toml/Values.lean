/-
# Values in one line

What settings are made of is read back wherever it ends a line: a text in its quotation, a truth
value, and a list of texts with a comma and a blank between them.
-/

import TypedClient.Proofs.Toml.Plain

namespace TypedClient.Toml

variable {c : Char} {cs rest blanks : List Char}

/-! ## Texts -/

/-- The string of a text begins with a quote. -/
theorem quote_eq_cons (s : String) :
    ∃ c cs, (quote s).toList = c :: cs ∧ (c = '"' ∨ c = '\'') := by
  cases chosen : Quotation.choose s.toList <;> simp [quote, chosen, Quotation.quotes]

theorem noReturn_escapeChar (c : Char) : '\r' ∉ escapeChar c := by
  have digits : ∀ k < 16, '\r' ≠ (Nat.digitChar k).toUpper := by decide
  unfold escapeChar
  split
  · rename_i letter found
    obtain ⟨before, after, splits, -⟩ := List.lookup_eq_some_iff.mp found
    have isEntry : (c, letter) ∈ before ++ (c, letter) :: after :=
      List.mem_append_right _ List.mem_cons_self
    rw [← splits] at isEntry
    simp only [List.mem_cons, Prod.mk.injEq, List.not_mem_nil, or_false] at isEntry
    rcases isEntry with ⟨-, rfl⟩ | ⟨-, rfl⟩ | ⟨-, rfl⟩ | ⟨-, rfl⟩ | ⟨-, rfl⟩ | ⟨-, rfl⟩ | ⟨-, rfl⟩
    all_goals decide
  · cases coded : needsCode c with
    | false =>
        simp only [Bool.false_eq_true, if_false, List.mem_singleton]
        rintro rfl
        exact absurd coded (by decide)
    | true =>
        have code : c.toNat < 0x80 := by
          simp only [needsCode, Bool.or_eq_true, Bool.and_eq_true, decide_eq_true_eq] at coded
          omega
        simp [digits (c.toNat / 16) (by omega), digits (c.toNat % 16) (by omega)]

theorem noReturn_escapeFrom (multiLine : Bool) (run : Nat) (cs : List Char) :
    '\r' ∉ escapeFrom multiLine run cs := by
  induction cs generalizing run with
  | nil => simp [escapeFrom]
  | cons c cs ih =>
      rw [escapeFrom]
      split
      · simp [ih]
      · split
        · simp [ih]
        · simp [ih, noReturn_escapeChar]

theorem noReturn_quote (s : String) : '\r' ∉ (quote s).toList := by
  have plain (noCode : ∀ c ∈ s.toList, needsCode c = false) : '\r' ∉ s.toList := fun member =>
    absurd (noCode _ member) (by decide)
  cases chosen : Quotation.choose s.toList with
  | basic => simp [quote, chosen, Quotation.quotes, noReturn_escapeFrom]
  | literal =>
      have isPlain := isPlainFor_choose chosen (.inl rfl)
      simp only [Quotation.isPlainFor, Bool.not_eq_true', List.any_eq_false, Bool.or_eq_true,
        not_or, Bool.not_eq_true] at isPlain
      simp [quote, chosen, Quotation.quotes, plain fun c member => (isPlain c member).1.1]
  | multiLineBasic =>
      simp only [quote, chosen, Quotation.quotes]
      split <;> simp [noReturn_escapeFrom]
  | multiLineLiteral =>
      have isPlain := isPlainFor_choose chosen (.inr rfl)
      simp only [Quotation.isPlainFor, Bool.and_eq_true, Bool.not_eq_true', List.any_eq_false,
        Bool.not_eq_true] at isPlain
      simp only [quote, chosen, Quotation.quotes]
      split <;> simp [plain isPlain.1]

/-- A text is read wherever its string is not followed by a quote. -/
theorem value?_quote (s : String) (noDouble : rest.head? ≠ some '"')
    (noSingle : rest.head? ≠ some '\'') (fuel depth : Nat) :
    value? (fuel + 1) depth ((quote s).toList ++ rest) =
      some (.value {} (quote s) (.string s), rest) := by
  have read := string?_quote s noDouble noSingle
  have spelled : taken ((quote s).toList ++ rest) rest = quote s := by
    rw [taken_append, String.ofList_toList]
  obtain ⟨c, cs, isCons, isQuote⟩ := quote_eq_cons s
  rw [isCons, List.cons_append] at read spelled ⊢
  rcases isQuote with rfl | rfl
  all_goals
    rw [value?]
    simp [read, spelled]

theorem readsAs_quote (s : String) : ReadsAs (quote s) (.string s) where
  visible := by
    obtain ⟨c, cs, isCons, isQuote⟩ := quote_eq_cons s
    rw [isCons]
    rcases isQuote with rfl | rfl <;> simp [isBlank]
  reads fuel depth rest enough := by
    obtain ⟨fuel, rfl⟩ := Nat.exists_eq_succ_of_ne_zero (Nat.ne_of_gt (Nat.zero_lt_of_lt enough))
    exact value?_quote s (by simp) (by simp) fuel (depth + 1)

/-! ## Truth values -/

theorem readsAs_bool (b : Bool) : ReadsAs (if b then "true" else "false") (.bool b) where
  visible := by cases b <;> simp [isBlank]
  reads fuel depth rest enough := by
    obtain ⟨fuel, rfl⟩ := Nat.exists_eq_succ_of_ne_zero (Nat.ne_of_gt (Nat.zero_lt_of_lt enough))
    cases b <;> rfl

/-! ## Lists of texts -/

/-- The characters of texts with separators between them. -/
def textsChars (texts : List String) : List Char :=
  (String.intercalate ", " (texts.map quote)).toList

theorem textsChars_cons (s t : String) (texts : List String) :
    textsChars (s :: t :: texts) = (quote s).toList ++ (',' :: ' ' :: textsChars (t :: texts)) := by
  simp [textsChars]

theorem skipTrivia?_quote (isBlanks : blanks = [] ∨ blanks = [' ']) (s : String)
    (rest : List Char) :
    skipTrivia? false (blanks ++ ((quote s).toList ++ rest)) = some ((quote s).toList ++ rest) := by
  obtain ⟨c, cs, isCons, isQuote⟩ := quote_eq_cons s
  have visible : skipTrivia? false ((quote s).toList ++ rest) = some ((quote s).toList ++ rest) := by
    rw [isCons]
    rcases isQuote with rfl | rfl
    all_goals exact skipTrivia?_visible (by decide) rfl (by decide) _
  rcases isBlanks with rfl | rfl
  · exact visible
  · rw [List.singleton_append, skipTrivia?, if_neg (by decide), if_neg (by decide), if_pos (by rfl),
      visible]

/-- A text at the start of the items is read, and the sign after it tells whether there are more. -/
theorem items?_quote (isBlanks : blanks = [] ∨ blanks = [' ']) (s : String)
    (isSign : c = ',' ∨ c = ']') (fuel depth : Nat) (rest : List Char) :
    items? (fuel + 2) depth (blanks ++ ((quote s).toList ++ c :: rest)) =
      if c = ',' then
        (items? (fuel + 1) depth rest).map fun read => (.string s :: read.1, read.2)
      else some ([.string s], rest) := by
  have notClosed : ∀ after, (quote s).toList ++ c :: rest ≠ ']' :: after := by
    intro after same
    obtain ⟨first, cs, isCons, isQuote⟩ := quote_eq_cons s
    rw [isCons] at same
    rcases isQuote with rfl | rfl <;> cases same
  have value : value? (fuel + 1) depth ((quote s).toList ++ c :: rest) =
      some (.value {} (quote s) (.string s), c :: rest) := by
    rcases isSign with rfl | rfl
    all_goals exact value?_quote s (by simp) (by simp) fuel depth
  have next : skipTrivia? false (c :: rest) = some (c :: rest) := by
    rcases isSign with rfl | rfl
    all_goals exact skipTrivia?_visible (by decide) rfl (by decide) rest
  rw [items?, skipTrivia?_quote isBlanks, Option.bind_eq_bind, Option.bind_some]
  split
  · rename_i after same
    exact absurd same (notClosed after)
  · simp only [value, Option.bind_eq_bind, Option.bind_some, next]
    rcases isSign with rfl | rfl
    · rw [if_pos rfl]
      cases more : items? (fuel + 1) depth rest <;> simp [more, Item.data]
    · rfl

/-- The items of a list are read up to its closing bracket. -/
theorem items?_texts (texts : List String) (isBlanks : blanks = [] ∨ blanks = [' ']) {fuel : Nat}
    (enough : (textsChars texts).length + 1 < fuel) (depth : Nat) (rest : List Char) :
    items? fuel depth (blanks ++ (textsChars texts ++ ']' :: rest)) =
      some (texts.map .string, rest) := by
  obtain ⟨fuel, rfl⟩ : ∃ more, fuel = more + 2 := ⟨fuel - 2, by omega⟩
  induction texts generalizing blanks fuel with
  | nil => rcases isBlanks with rfl | rfl <;> rfl
  | cons s texts ih =>
      cases texts with
      | nil =>
          have alone : textsChars [s] = (quote s).toList := by simp [textsChars]
          rw [alone, items?_quote isBlanks s (.inr rfl)]
          rfl
      | cons t texts =>
          rw [textsChars_cons] at enough ⊢
          obtain ⟨fuel, rfl⟩ : ∃ more, fuel = more + 1 := ⟨fuel - 1, by simp at enough; omega⟩
          have more := ih (.inr rfl) fuel (by simp at enough; omega)
          rw [List.append_assoc, List.cons_append, items?_quote isBlanks s (.inl rfl), if_pos rfl]
          rw [List.singleton_append] at more
          rw [List.cons_append, more]
          rfl

theorem readsAs_texts (texts : List String) :
    ReadsAs ("[" ++ String.intercalate ", " (texts.map quote) ++ "]") (.array (texts.map .string))
    where
  visible := by simp [isBlank]
  reads fuel depth rest enough := by
    have spelled : ("[" ++ String.intercalate ", " (texts.map quote) ++ "]").toList =
        '[' :: (textsChars texts ++ [']']) := by
      simp [textsChars]
    rw [spelled] at enough ⊢
    obtain ⟨fuel, rfl⟩ := Nat.exists_eq_succ_of_ne_zero (Nat.ne_of_gt (Nat.zero_lt_of_lt enough))
    have fits : (textsChars texts).length + 1 < fuel := by simp at enough; omega
    have items := items?_texts texts (.inl rfl) fits depth ('\n' :: rest)
    have whole : '[' :: (textsChars texts ++ [']']) ++ '\n' :: rest =
        '[' :: (textsChars texts ++ ']' :: '\n' :: rest) := by simp
    have taken := taken_append ('[' :: (textsChars texts ++ [']'])) ('\n' :: rest)
    rw [whole, ← spelled, String.ofList_toList] at taken
    rw [List.nil_append] at items
    rw [whole, value?]
    simp only [items, taken, Option.bind_eq_bind, Option.bind_some]

theorem noReturn_texts (texts : List String) :
    '\r' ∉ ("[" ++ String.intercalate ", " (texts.map quote) ++ "]").toList := by
  have inTexts : '\r' ∉ textsChars texts := by
    induction texts with
    | nil => simp [textsChars]
    | cons s texts ih =>
        cases texts with
        | nil => simpa [textsChars] using noReturn_quote s
        | cons t texts => simp [textsChars_cons, noReturn_quote, ih]
  simpa [textsChars] using inTexts

end TypedClient.Toml

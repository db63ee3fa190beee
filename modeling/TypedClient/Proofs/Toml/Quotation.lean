/-
# Strings are read as they were written

Whatever quotation a text gets, reading it gives the text back and stops behind the closing
quotes. Between double quotes every escape stands for its character. Over several lines a run
of quotes is read at once, so the texts are taken apart with the run in front of them.
-/

import TypedClient.Toml.Quoted
import TypedClient.Toml.Scalar

namespace TypedClient.Toml

variable {c delimiter : Char} {cs rest reversed : List Char} {fuel run : Nat}

/-! ## Escapes -/

theorem hexValue?_digitChar : ∀ k < 16, Text.hexValue? (Nat.digitChar k).toUpper = some k := by
  decide

/-- A control character is its two digits. -/
theorem escapedChar?_code (code : c.toNat < 0x80) (rest : List Char) :
    escapedChar? ('u' :: '0' :: '0' :: (Nat.digitChar (c.toNat / 16)).toUpper ::
      (Nat.digitChar (c.toNat % 16)).toUpper :: rest) = some (c, rest) := by
  have high := hexValue?_digitChar (c.toNat / 16) (by omega)
  have low := hexValue?_digitChar (c.toNat % 16) (by omega)
  have zero : Text.hexValue? '0' = some 0 := rfl
  have whole : charOfCode? (c.toNat / 16 * 16 + c.toNat % 16) = some c := by
    have sum : c.toNat / 16 * 16 + c.toNat % 16 = c.toNat := by omega
    have noSurrogate : ¬ 0xd800 ≤ c.toNat := by omega
    have inRange : ¬ 0x10ffff < c.toNat := by omega
    simp [sum, charOfCode?, noSurrogate, inRange]
  simp [escapedChar?, List.lookup_cons, high, low, zero, whole]

theorem printable_of_needsCode (plain : needsCode c = false) :
    isPrintable c = true ∨ c = '\n' := by
  simp only [needsCode, Bool.or_eq_false_iff, Bool.and_eq_false_iff, decide_eq_false_iff_not,
    bne_eq_false_iff_eq] at plain
  simp only [isPrintable, Bool.or_eq_true, Bool.and_eq_true, decide_eq_true_eq]
  obtain ⟨(high | isTab) | isFeed, noDelete⟩ := plain
  · exact .inl (.inr ⟨by omega, noDelete⟩)
  · exact .inl (.inl isTab)
  · exact .inr isFeed

/-- How a character stands between double quotes: as it is, or as an escape that is read back. -/
theorem escapeChar_cases (c : Char) :
    (escapeChar c = [c] ∧ isPrintable c = true ∧ c ≠ '"' ∧ c ≠ '\\') ∨
      ∃ first code, escapeChar c = '\\' :: first :: code ∧
        (first ≠ ' ' ∧ first ≠ '\t' ∧ first ≠ '\n') ∧
        ∀ rest, escapedChar? (first :: code ++ rest) = some (c, rest) := by
  by_cases isLetter : c ∈ ['\x08', '\t', '\n', '\x0c', '\r', '\\', '"']
  · simp only [List.mem_cons, List.not_mem_nil, or_false] at isLetter
    right
    rcases isLetter with rfl | rfl | rfl | rfl | rfl | rfl | rfl
    all_goals exact ⟨_, [], rfl, by decide, fun _ => rfl⟩
  · simp only [List.mem_cons, List.not_mem_nil, or_false, not_or] at isLetter
    have noLetter : [('\x08', 'b'), ('\t', 't'), ('\n', 'n'), ('\x0c', 'f'), ('\r', 'r'),
        ('\\', '\\'), ('"', '"')].lookup c = none := by
      simp [List.lookup_cons, beq_false_of_ne, isLetter]
    unfold escapeChar
    rw [noLetter]
    dsimp only
    cases coded : needsCode c with
    | true =>
        have code : c.toNat < 0x80 := by
          simp only [needsCode, Bool.or_eq_true, Bool.and_eq_true, decide_eq_true_eq] at coded
          omega
        exact .inr ⟨'u', _, rfl, by decide, escapedChar?_code code⟩
    | false =>
        have printable := (printable_of_needsCode coded).resolve_right isLetter.2.2.1
        exact .inl ⟨rfl, printable, isLetter.2.2.2.2.2.2, isLetter.2.2.2.2.2.1⟩

/-! ## Strings in one line -/

theorem lineString?_close (delimiter : Char) (fuel : Nat) (reversed rest : List Char) :
    lineString? delimiter (fuel + 1) reversed (delimiter :: rest) =
      some (String.ofList reversed.reverse, rest) := by
  simp [lineString?]

theorem lineString?_plain (notQuote : c ≠ delimiter) (noEscape : delimiter = '"' → c ≠ '\\')
    (printable : isPrintable c = true) (fuel : Nat) (reversed rest : List Char) :
    lineString? delimiter (fuel + 1) reversed (c :: rest) =
      lineString? delimiter fuel (c :: reversed) rest := by
  simp +contextual [lineString?, notQuote, noEscape, printable]

theorem lineString?_escape {code : List Char} (back : escapedChar? code = some (c, rest))
    (fuel : Nat) (reversed : List Char) :
    lineString? '"' (fuel + 1) reversed ('\\' :: code) =
      lineString? '"' fuel (c :: reversed) rest := by
  simp [lineString?, back]

theorem escapeFrom_oneLine (run : Nat) (c : Char) (cs : List Char) :
    escapeFrom false run (c :: cs) = escapeChar c ++ escapeFrom false 0 cs := by
  simp [escapeFrom]

/-- A string with escapes is read up to its closing quote. -/
theorem lineString?_escapeFrom (reversed rest : List Char)
    (enough : (escapeFrom false run cs).length < fuel) :
    lineString? '"' fuel reversed (escapeFrom false run cs ++ '"' :: rest) =
      some (String.ofList (reversed.reverse ++ cs), rest) := by
  induction cs generalizing run reversed fuel with
  | nil =>
      obtain _ | fuel := fuel
      · exact absurd enough (Nat.not_lt_zero _)
      · rw [List.append_nil]
        exact lineString?_close ..
  | cons c cs ih =>
      obtain _ | fuel := fuel
      · exact absurd enough (Nat.not_lt_zero _)
      rw [escapeFrom_oneLine, List.length_append] at enough
      rw [escapeFrom_oneLine, List.append_assoc]
      have tail : reversed.reverse ++ c :: cs = (c :: reversed).reverse ++ cs := by simp
      rcases escapeChar_cases c with ⟨plain, printable, notQuote, notEscape⟩ |
        ⟨first, code, escaped, -, back⟩
      · rw [plain] at enough ⊢
        rw [tail, List.singleton_append, lineString?_plain notQuote (fun _ => notEscape) printable]
        exact ih _ (by simp at enough; omega)
      · rw [escaped] at enough ⊢
        rw [tail, List.cons_append, lineString?_escape (back _)]
        exact ih _ (by simp at enough; omega)

/-- A string without escapes is read up to its closing quote. -/
theorem lineString?_literal (reversed rest : List Char) (notQuote : ∀ c ∈ cs, c ≠ '\'')
    (printable : ∀ c ∈ cs, isPrintable c = true) (enough : cs.length < fuel) :
    lineString? '\'' fuel reversed (cs ++ '\'' :: rest) =
      some (String.ofList (reversed.reverse ++ cs), rest) := by
  induction cs generalizing reversed fuel with
  | nil =>
      obtain _ | fuel := fuel
      · exact absurd enough (Nat.not_lt_zero _)
      · rw [List.append_nil]
        exact lineString?_close ..
  | cons c cs ih =>
      obtain _ | fuel := fuel
      · exact absurd enough (Nat.not_lt_zero _)
      obtain ⟨notQuoteHead, notQuoteTail⟩ := List.forall_mem_cons.mp notQuote
      obtain ⟨printableHead, printableTail⟩ := List.forall_mem_cons.mp printable
      have tail : reversed.reverse ++ c :: cs = (c :: reversed).reverse ++ cs := by simp
      rw [tail, List.cons_append,
        lineString?_plain notQuoteHead (fun isDouble => absurd isDouble (by decide)) printableHead]
      exact ih _ notQuoteTail printableTail (by simpa using enough)

/-! ## Strings over several lines -/

theorem takeWhile_replicate_append {n : Nat} (other : rest.head? ≠ some delimiter) :
    (List.replicate n delimiter ++ rest).takeWhile (· = delimiter) = List.replicate n delimiter := by
  have stops : rest.takeWhile (· = delimiter) = [] := by
    cases rest with
    | nil => rfl
    | cons d rest =>
        have differs : d ≠ delimiter := fun same => other (by rw [same]; rfl)
        simp [differs]
  rw [List.takeWhile_append_of_pos (by simp), stops, List.append_nil]

theorem length_takeWhile_run {n : Nat} (other : rest.head? ≠ some delimiter) :
    1 + ((List.replicate n delimiter ++ rest).takeWhile (· = delimiter)).length = n + 1 := by
  rw [takeWhile_replicate_append other, List.length_replicate, Nat.add_comm]

/-- A run of one or two quotes belongs to the string. -/
theorem linesString?_run (small : run < 2) (other : rest.head? ≠ some delimiter) (fuel : Nat)
    (reversed : List Char) :
    linesString? delimiter (fuel + 1) reversed (List.replicate (run + 1) delimiter ++ rest) =
      linesString? delimiter fuel (List.replicate (run + 1) delimiter ++ reversed) rest := by
  have short : run + 1 < 3 := by omega
  have dropped : (delimiter :: (List.replicate run delimiter ++ rest)).drop (run + 1) = rest := by
    rw [← List.cons_append, ← List.replicate_succ]
    exact List.drop_left' (List.length_replicate ..)
  rw [List.replicate_succ, List.cons_append, linesString?]
  simp only [if_pos, length_takeWhile_run other, short, dropped]
  rw [List.replicate_succ]

/-- A run of quotes at the end of a string: no more than two belong to it. -/
theorem linesString?_end {run : Nat} (other : rest.head? ≠ some delimiter) (fuel : Nat)
    (reversed : List Char) :
    linesString? delimiter (fuel + 1) reversed (List.replicate (run + 3) delimiter ++ rest) =
      some (String.ofList (reversed.reverse ++ List.replicate (min run 2) delimiter),
        List.replicate (run - min run 2) delimiter ++ rest) := by
  have long : ¬ run + 2 + 1 < 3 := by omega
  have inside : min (run + 2 + 1 - 3) 2 = min run 2 := by omega
  have split : run + 3 = (min run 2 + 3) + (run - min run 2) := by omega
  have dropped : (delimiter :: (List.replicate (run + 2) delimiter ++ rest)).drop (min run 2 + 3) =
      List.replicate (run - min run 2) delimiter ++ rest := by
    rw [← List.cons_append, ← List.replicate_succ, split, ← List.replicate_append_replicate,
      List.append_assoc]
    exact List.drop_left' (List.length_replicate ..)
  rw [List.replicate_succ, List.cons_append, linesString?]
  simp only [if_pos, length_takeWhile_run other, long, if_false, inside, dropped,
    List.reverse_append, List.reverse_replicate]

/-- Of a run of three to five quotes, the last three close the string. -/
theorem linesString?_close (small : run ≤ 2) (other : rest.head? ≠ some delimiter) (fuel : Nat)
    (reversed : List Char) :
    linesString? delimiter (fuel + 1) reversed (List.replicate (run + 3) delimiter ++ rest) =
      some (String.ofList (reversed.reverse ++ List.replicate run delimiter), rest) := by
  have closed : linesString? delimiter (fuel + 1) reversed
      (List.replicate (run + 3) delimiter ++ rest) = _ := linesString?_end other fuel reversed
  rwa [Nat.min_eq_left small, Nat.sub_self] at closed

theorem linesString?_plain (notQuote : c ≠ delimiter) (noEscape : delimiter = '"' → c ≠ '\\')
    (printable : isPrintable c = true ∨ c = '\n') (fuel : Nat) (reversed rest : List Char) :
    linesString? delimiter (fuel + 1) reversed (c :: rest) =
      linesString? delimiter fuel (c :: reversed) rest := by
  simp +contextual [linesString?, notQuote, noEscape, printable]

theorem linesString?_escape {first : Char} {code : List Char}
    (noBlank : first ≠ ' ' ∧ first ≠ '\t' ∧ first ≠ '\n')
    (back : escapedChar? (first :: code) = some (c, rest)) (fuel : Nat) (reversed : List Char) :
    linesString? '"' (fuel + 1) reversed ('\\' :: first :: code) =
      linesString? '"' fuel (c :: reversed) rest := by
  have goesOn : continued? (first :: code) = none := by
    simp [continued?, noBlank]
  simp [linesString?, goesOn, back]

/-- Quotes that are pending in front of another character go into the string first. -/
theorem linesString?_flush {bound : Nat} {result : Option (String × List Char)}
    (small : run ≤ 2) (other : rest.head? ≠ some delimiter)
    (goesOn : ∀ fuel, bound < fuel →
      linesString? delimiter fuel (List.replicate run delimiter ++ reversed) rest = result)
    (enough : run + bound < fuel) :
    linesString? delimiter fuel reversed (List.replicate run delimiter ++ rest) = result := by
  cases run with
  | zero => exact goesOn fuel (by omega)
  | succ run =>
      obtain _ | fuel := fuel
      · exact absurd enough (Nat.not_lt_zero _)
      · rw [linesString?_run (by omega) other]
        exact goesOn fuel (by omega)

theorem escapeFrom_newline (run : Nat) (cs : List Char) :
    escapeFrom true run ('\n' :: cs) = '\n' :: escapeFrom true 0 cs := by
  simp [escapeFrom]

theorem escapeFrom_quote (small : run < 2) (cs : List Char) :
    escapeFrom true run ('"' :: cs) = '"' :: escapeFrom true (run + 1) cs := by
  simp [escapeFrom, small]

theorem escapeFrom_other (noFeed : c ≠ '\n') (noQuote : ¬ (c = '"' ∧ run < 2))
    (cs : List Char) : escapeFrom true run (c :: cs) = escapeChar c ++ escapeFrom true 0 cs := by
  simp only [escapeFrom, Bool.true_and, decide_eq_true_eq, noFeed, if_false, Bool.and_eq_true,
    noQuote]

/-- A string with escapes over several lines is read up to its closing quotes. -/
theorem linesString?_escapeFrom (small : run ≤ 2) (other : rest.head? ≠ some '"')
    (reversed : List Char) (enough : run + (escapeFrom true run cs).length < fuel) :
    linesString? '"' fuel reversed
        (List.replicate run '"' ++ (escapeFrom true run cs ++ (List.replicate 3 '"' ++ rest))) =
      some (String.ofList (reversed.reverse ++ (List.replicate run '"' ++ cs)), rest) := by
  induction cs generalizing run reversed fuel with
  | nil =>
      obtain _ | fuel := fuel
      · exact absurd enough (Nat.not_lt_zero _)
      · rw [escapeFrom, List.nil_append, ← List.append_assoc, List.replicate_append_replicate,
          linesString?_close small other, List.append_nil]
  | cons c cs ih =>
      -- Whatever is not a quote that stays flushes the quotes before it.
      have goesOn {fuel : Nat} (enough : (escapeFrom true 0 cs).length < fuel) :
          linesString? '"' fuel (c :: (List.replicate run '"' ++ reversed))
              (escapeFrom true 0 cs ++ (List.replicate 3 '"' ++ rest)) =
            some (String.ofList (reversed.reverse ++ (List.replicate run '"' ++ c :: cs)),
              rest) := by
        have read := ih (Nat.zero_le 2) (c :: (List.replicate run '"' ++ reversed))
          (by simpa using enough)
        simpa using read
      by_cases feed : c = '\n'
      · subst feed
        rw [escapeFrom_newline] at enough ⊢
        refine linesString?_flush small (by simp) (fun fuel enough => ?_) enough
        obtain _ | fuel := fuel
        · exact absurd enough (Nat.not_lt_zero _)
        rw [List.cons_append, linesString?_plain (by decide) (by decide) (.inr rfl)]
        exact goesOn (by simpa using enough)
      by_cases stays : c = '"' ∧ run < 2
      · obtain ⟨rfl, room⟩ := stays
        rw [escapeFrom_quote room] at enough ⊢
        have read := ih (show run + 1 ≤ 2 from room) reversed
          (show run + 1 + _ < fuel by simp at enough; omega)
        simpa [List.replicate_succ'] using read
      rw [escapeFrom_other feed stays] at enough ⊢
      rw [List.append_assoc]
      rcases escapeChar_cases c with ⟨plain, printable, notQuote, notEscape⟩ |
        ⟨first, code, escaped, noBlank, back⟩
      · rw [plain] at enough ⊢
        rw [List.singleton_append]
        refine linesString?_flush small (by simp [notQuote]) (fun fuel enough => ?_) enough
        obtain _ | fuel := fuel
        · exact absurd enough (Nat.not_lt_zero _)
        rw [linesString?_plain notQuote (fun _ => notEscape) (.inl printable)]
        exact goesOn (by simpa using enough)
      · rw [escaped] at enough ⊢
        refine linesString?_flush small (by simp) (fun fuel enough => ?_) enough
        obtain _ | fuel := fuel
        · exact absurd enough (Nat.not_lt_zero _)
        rw [List.cons_append, List.cons_append,
          linesString?_escape noBlank ((List.cons_append ..).symm ▸ back _)]
        exact goesOn (by simp at enough; omega)

theorem le_longestRun (c : Char) (current : Nat) (cs : List Char) :
    current ≤ longestRun c current cs := by
  induction cs generalizing current with
  | nil => exact Nat.le_refl current
  | cons d cs ih =>
      rw [longestRun]
      split
      · exact Nat.le_trans (Nat.le_succ current) (ih (current + 1))
      · exact Nat.le_max_left ..

/-- A string without escapes over several lines is read up to its closing quotes. -/
theorem linesString?_literal (small : longestRun '\'' run cs ≤ 2)
    (plain : ∀ c ∈ cs, needsCode c = false) (other : rest.head? ≠ some '\'')
    (reversed : List Char) (enough : run + cs.length < fuel) :
    linesString? '\'' fuel reversed
        (List.replicate run '\'' ++ (cs ++ (List.replicate 3 '\'' ++ rest))) =
      some (String.ofList (reversed.reverse ++ (List.replicate run '\'' ++ cs)), rest) := by
  induction cs generalizing run reversed fuel with
  | nil =>
      obtain _ | fuel := fuel
      · exact absurd enough (Nat.not_lt_zero _)
      · rw [List.nil_append, ← List.append_assoc, List.replicate_append_replicate,
          linesString?_close (show run ≤ 2 from small) other, List.append_nil]
  | cons c cs ih =>
      obtain ⟨plainHead, plainTail⟩ := List.forall_mem_cons.mp plain
      have runSmall := Nat.le_trans (le_longestRun '\'' run (c :: cs)) small
      rw [longestRun] at small
      split at small
      · rename_i isQuote
        subst isQuote
        have read := ih small plainTail reversed
          (show run + 1 + _ < fuel by simp at enough; omega)
        simpa [List.replicate_succ'] using read
      · rename_i notQuote
        have smallTail := Nat.le_trans (Nat.le_max_right ..) small
        have printable : isPrintable c = true ∨ c = '\n' := printable_of_needsCode plainHead
        refine linesString?_flush runSmall (by simp [notQuote]) (fun fuel enough => ?_) enough
        obtain _ | fuel := fuel
        · exact absurd enough (Nat.not_lt_zero _)
        rw [List.cons_append, linesString?_plain notQuote
          (fun isDouble => absurd isDouble (by decide)) printable]
        have read := ih smallTail plainTail (c :: (List.replicate run '\'' ++ reversed))
          (by simpa using enough)
        simpa using read

/-! ## All quotations -/

/-- A quote that is not the first of three opens a string in one line. -/
theorem string?_line (isQuote : delimiter = '"' ∨ delimiter = '\'') {text : List Char}
    (single : ∀ more, text ≠ delimiter :: delimiter :: more) :
    string? (delimiter :: text) = lineString? delimiter (text.length + 1) [] text := by
  match text with
  | [] => simp [string?, isQuote]
  | [b] => simp [string?, isQuote]
  | b :: c :: more =>
      have notTriple : ¬ (b = delimiter ∧ c = delimiter) := by
        rintro ⟨rfl, rfl⟩
        exact single more rfl
      simp [string?, isQuote, notTriple]

/-- A line feed after the opening quotes is not part of the string. -/
theorem string?_lines (isQuote : delimiter = '"' ∨ delimiter = '\'') {start body : List Char}
    (isStart : start = ['\n'] ∨ start = [] ∧ body.head? ≠ some '\n') :
    string? (List.replicate 3 delimiter ++ (start ++ body)) =
      linesString? delimiter (body.length + 1) [] body := by
  rcases isStart with rfl | ⟨rfl, other⟩
  · simp [List.replicate, string?, isQuote]
  · cases body with
    | nil => simp [List.replicate, string?, isQuote]
    | cons d body =>
        have differs : d ≠ '\n' := fun same => other (by rw [same]; rfl)
        simp only [List.replicate, List.cons_append, List.nil_append, string?, isQuote,
          Bool.or_eq_true, decide_eq_true_eq, Bool.and_true, decide_true, if_true]
        split
        · rename_i cut
          exact absurd (List.cons.inj cut).1 differs
        · rfl

/-- A quotation without escapes is chosen only for a text that needs none. -/
theorem isPlainFor_choose {quotation : Quotation} (chosen : Quotation.choose cs = quotation)
    (noEscape : quotation = .literal ∨ quotation = .multiLineLiteral) :
    Quotation.isPlainFor cs quotation = true := by
  unfold Quotation.choose at chosen
  split at chosen
  · rename_i found
    rw [← chosen]
    exact List.find?_some found
  · subst chosen
    split at noEscape <;> simp at noEscape

/-- Escaped text in one line does not begin with a double quote. -/
theorem head?_escapeFrom (run : Nat) (cs : List Char) :
    (escapeFrom false run cs).head? ≠ some '"' := by
  cases cs with
  | nil => simp [escapeFrom]
  | cons c cs =>
      rw [escapeFrom_oneLine]
      rcases escapeChar_cases c with ⟨plain, -, notQuote, -⟩ | ⟨first, code, escaped, -⟩
      · simp [plain, notQuote]
      · simp [escaped]

/-- Escaped text over several lines begins with a line feed only if the text does. -/
theorem head?_escapeFrom_ne_newline (run : Nat) (noFeed : '\n' ∉ cs) :
    (escapeFrom true run cs).head? ≠ some '\n' := by
  cases cs with
  | nil => simp [escapeFrom]
  | cons c cs =>
      have differs : c ≠ '\n' := fun same => noFeed (by rw [same]; exact List.mem_cons_self)
      by_cases stays : c = '"' ∧ run < 2
      · obtain ⟨rfl, room⟩ := stays
        simp [escapeFrom_quote room]
      · rw [escapeFrom_other differs stays]
        rcases escapeChar_cases c with ⟨plain, -⟩ | ⟨first, code, escaped, -⟩
        · simp [plain, differs]
        · simp [escaped]

theorem ne_two_of_head? {text more : List Char} (first : text.head? ≠ some delimiter)
    (other : rest.head? ≠ some delimiter) :
    text ++ delimiter :: rest ≠ delimiter :: delimiter :: more := by
  intro same
  cases text with
  | nil => exact other (by rw [(List.cons.inj same).2]; rfl)
  | cons d text => exact first (by rw [(List.cons.inj same).1]; rfl)

/-- A text is read back from its string, whatever follows it but quotes. -/
theorem string?_quote (s : String) (noDouble : rest.head? ≠ some '"')
    (noSingle : rest.head? ≠ some '\'') :
    string? ((quote s).toList ++ rest) = some (s, rest) := by
  have whole : String.ofList ([].reverse ++ s.toList) = s := by simp
  cases chosen : Quotation.choose s.toList with
  | basic =>
      have written : (quote s).toList ++ rest =
          '"' :: (escapeFrom false 0 s.toList ++ '"' :: rest) := by
        simp [quote, chosen, Quotation.quotes]
      rw [written, string?_line (.inl rfl) fun more =>
          ne_two_of_head? (head?_escapeFrom 0 s.toList) noDouble,
        lineString?_escapeFrom _ _ (by rw [List.length_append]; omega), whole]
  | literal =>
      have isPlain := isPlainFor_choose chosen (.inl rfl)
      have written : (quote s).toList ++ rest = '\'' :: (s.toList ++ '\'' :: rest) := by
        simp [quote, chosen, Quotation.quotes]
      simp only [Quotation.isPlainFor, Bool.not_eq_true', List.any_eq_false, Bool.or_eq_true,
        decide_eq_true_eq, not_or, Bool.not_eq_true] at isPlain
      have notQuote : ∀ c ∈ s.toList, c ≠ '\'' := fun c member => (isPlain c member).2
      have printable : ∀ c ∈ s.toList, isPrintable c = true := fun c member =>
        (printable_of_needsCode (isPlain c member).1.1).resolve_right (isPlain c member).1.2
      have first : s.toList.head? ≠ some '\'' := fun isHead =>
        notQuote _ (List.mem_of_mem_head? isHead) rfl
      rw [written, string?_line (.inr rfl) fun more => ne_two_of_head? first noSingle,
        lineString?_literal _ _ notQuote printable (by rw [List.length_append]; omega), whole]
  | multiLineBasic =>
      have written : (quote s).toList ++ rest = List.replicate 3 '"' ++
          ((if '\n' ∈ s.toList then ['\n'] else []) ++
            (escapeFrom true 0 s.toList ++ (List.replicate 3 '"' ++ rest))) := by
        by_cases feed : '\n' ∈ s.toList <;>
          simp [quote, chosen, Quotation.quotes, feed, List.replicate]
      have read := linesString?_escapeFrom (Nat.zero_le 2) noDouble []
        (show 0 + (escapeFrom true 0 s.toList).length <
          (escapeFrom true 0 s.toList ++ (List.replicate 3 '"' ++ rest)).length + 1 by
            rw [List.length_append]; omega)
      rw [written, string?_lines (.inl rfl)]
      · simpa using read
      · by_cases feed : '\n' ∈ s.toList
        · exact .inl (if_pos feed)
        · refine .inr ⟨if_neg feed, ?_⟩
          have first := head?_escapeFrom_ne_newline 0 feed
          cases body : escapeFrom true 0 s.toList with
          | nil => simp
          | cons d tail => simpa [body] using first
  | multiLineLiteral =>
      have isPlain := isPlainFor_choose chosen (.inr rfl)
      simp only [Quotation.isPlainFor, Bool.and_eq_true, Bool.not_eq_true', List.any_eq_false,
        Bool.not_eq_true, decide_eq_true_eq] at isPlain
      obtain ⟨plain, small⟩ := isPlain
      have written : (quote s).toList ++ rest = List.replicate 3 '\'' ++
          ((if '\n' ∈ s.toList then ['\n'] else []) ++
            (s.toList ++ (List.replicate 3 '\'' ++ rest))) := by
        by_cases feed : '\n' ∈ s.toList <;>
          simp [quote, chosen, Quotation.quotes, feed, List.replicate]
      have read := linesString?_literal small plain noSingle []
        (show 0 + s.toList.length <
          (s.toList ++ (List.replicate 3 '\'' ++ rest)).length + 1 by
            rw [List.length_append]; omega)
      rw [written, string?_lines (.inr rfl)]
      · simpa using read
      · by_cases feed : '\n' ∈ s.toList
        · exact .inl (if_pos feed)
        · refine .inr ⟨if_neg feed, ?_⟩
          cases body : s.toList with
          | nil => simp
          | cons d tail =>
              have differs : d ≠ '\n' := fun same =>
                feed (by rw [body, same]; exact List.mem_cons_self)
              simp [differs]

end TypedClient.Toml

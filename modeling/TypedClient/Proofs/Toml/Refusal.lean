/-
# Texts that are no documents

Code is refused at its first character, since it starts with a comment, and JSON at its first
line: no value of JSON is a header, and none is followed by the sign of a pair. So neither is
mistaken for settings.
-/

import TypedClient.Json.Printer
import TypedClient.Proofs.Toml.Plain

namespace TypedClient.Toml

variable {c : Char} {cs rest : List Char} {text : String}

/-- A text whose first statement is refused is no document. -/
theorem parse?_eq_none (isText : joinLineEnds text.toList = c :: cs) (noMark : c ≠ '\ufeff')
    (starts : skipTrivia? false (c :: cs) = some (c :: cs))
    (refused : (match c :: cs with
      | '[' :: rest => header? "" rest
      | start => pair? "" start) = none) :
    Document.parse? text = none := by
  have nothing : taken (c :: cs) (c :: cs) = "" := by simp [taken]
  have noStatement (fuel : Nat) : statements? (fuel + 1) (c :: cs) = none := by
    rw [statements?, starts]
    simp only [Option.bind_eq_bind, Option.bind_some, nothing, List.isEmpty_cons,
      Bool.false_eq_true, if_false]
    split
    · rename_i isHeader
      rw [isHeader] at refused
      change header? "" _ = none at refused
      rw [refused]
      rfl
    · rename_i noHeader
      split at refused
      · rename_i isHeader
        exact absurd isHeader (noHeader _)
      · rw [refused]
        rfl
  unfold Document.parse?
  rw [isText]
  dsimp only
  rw [if_neg (by simpa using noMark), noStatement]
  rfl

theorem joinLineEnds_cons (noReturn : c ≠ '\r') (cs : List Char) :
    joinLineEnds (c :: cs) = c :: joinLineEnds cs :=
  joinLineEnds.eq_3 c cs fun _ isReturn => absurd isReturn noReturn

/-! ## First characters -/

/-- Neither a bare key nor a string begins with the character. -/
structure BeginsNoKey (c : Char) : Prop where
  notBare : isBareKeyChar c = false
  visible : isBlank c = false
  noDouble : c ≠ '"'
  noSingle : c ≠ '\''

theorem keyPath?_eq_none (beginsNoKey : BeginsNoKey c) (before : String) (cs : List Char) :
    keyPath? before (c :: cs) = none := by
  have noBlanks : (c :: cs).dropWhile isBlank = c :: cs :=
    List.dropWhile_cons_of_neg (by simp [beginsNoKey.visible])
  have noName : keyName? (c :: cs) = none := by
    unfold keyName?
    split
    · rename_i isDouble
      exact absurd (List.cons.inj isDouble).1 beginsNoKey.noDouble
    · rename_i isSingle
      exact absurd (List.cons.inj isSingle).1 beginsNoKey.noSingle
    · simp [beginsNoKey.notBare]
  unfold keyPath? keys?
  simp [noBlanks, noName]

theorem header?_eq_none {before : String} (noElement : cs.head? ≠ some '[')
    (noPath : keyPath? "" cs = none) : header? before cs = none := by
  rw [header?.eq_def]
  split
  rename_i isElement inside isInside
  have same : inside = cs := by
    split at isInside
    · rename_i isElement
      exact absurd rfl noElement
    · exact (Prod.mk.inj isInside).2.symm
  rw [same, noPath]
  rfl

/-- A text that begins with a sign no statement begins with is no document. -/
theorem parse?_eq_none_of_head (isText : text.toList = c :: cs) (noReturn : c ≠ '\r')
    (noMark : c ≠ '\ufeff') (noFeed : c ≠ '\n') (noComment : c ≠ '#') (noHeader : c ≠ '[')
    (beginsNoKey : BeginsNoKey c) : Document.parse? text = none := by
  have isText : joinLineEnds text.toList = c :: joinLineEnds cs := by
    rw [isText, joinLineEnds_cons noReturn]
  refine parse?_eq_none isText noMark
    (skipTrivia?_visible noFeed beginsNoKey.visible noComment _) ?_
  split
  · rename_i isHeader
    exact absurd (List.cons.inj isHeader).1 noHeader
  · simp [pair?, keyPath?_eq_none beginsNoKey]

/-- A bracket that no key follows opens no header. -/
theorem parse?_eq_none_of_bracket (isText : text.toList = '[' :: c :: cs) (noReturn : c ≠ '\r')
    (noHeader : c ≠ '[') (beginsNoKey : BeginsNoKey c) : Document.parse? text = none := by
  have isText : joinLineEnds text.toList = '[' :: c :: joinLineEnds cs := by
    rw [isText, joinLineEnds_cons (by decide), joinLineEnds_cons noReturn]
  refine parse?_eq_none isText (by decide) (skipTrivia?_visible (by decide) rfl (by decide) _) ?_
  exact header?_eq_none (by simpa using noHeader) (keyPath?_eq_none beginsNoKey "" _)

/-! ## Words -/

/-- No key of a text is in quotes. -/
structure HasNoQuote (cs : List Char) : Prop where
  noDouble : '"' ∉ cs
  noSingle : '\'' ∉ cs

theorem HasNoQuote.of_suffix (noQuote : HasNoQuote cs) (isSuffix : rest <:+ cs) :
    HasNoQuote rest :=
  ⟨fun member => noQuote.noDouble (isSuffix.subset member),
    fun member => noQuote.noSingle (isSuffix.subset member)⟩

theorem isSuffix_of_keyName? (noQuote : HasNoQuote cs) {name : String}
    (read : keyName? cs = some (name, rest)) : rest <:+ cs := by
  unfold keyName? at read
  split at read
  · exact absurd List.mem_cons_self noQuote.noDouble
  · exact absurd List.mem_cons_self noQuote.noSingle
  · dsimp only at read
    split at read
    · cases read
    · cases read
      exact List.dropWhile_suffix _

theorem isSuffix_of_keys? (noQuote : HasNoQuote cs) {fuel : Nat} {path : List Key}
    (read : keys? fuel cs = some (path, rest)) : rest <:+ cs := by
  induction fuel generalizing cs path with
  | zero => cases read
  | succ fuel ih =>
      have blanks : cs.dropWhile isBlank <:+ cs := List.dropWhile_suffix _
      unfold keys? at read
      simp only [Option.bind_eq_bind, Option.bind_eq_some_iff, Prod.exists] at read
      obtain ⟨name, behind, readsName, read⟩ := read
      have named := (isSuffix_of_keyName? (noQuote.of_suffix blanks) readsName).trans blanks
      have next : behind.dropWhile isBlank <:+ cs := (List.dropWhile_suffix _).trans named
      split at read
      · rename_i point isPoint
        simp only [Option.bind_eq_some_iff, Prod.exists] at read
        obtain ⟨inside, after, readsRest, read⟩ := read
        cases read
        rw [isPoint] at next
        have below := (List.suffix_cons '.' point).trans next
        exact (ih (noQuote.of_suffix below) readsRest).trans below
      · cases read
        exact next

/-- A text without the sign of a pair is none. -/
theorem pair?_eq_none (noQuote : HasNoQuote cs) (noSign : '=' ∉ cs) (before : String) :
    pair? before cs = none := by
  unfold pair?
  cases path : keyPath? before cs with
  | none => rfl
  | some read =>
      obtain ⟨keys, key, rest⟩ := read
      have isSuffix : rest <:+ cs := by
        unfold keyPath? at path
        simp only [Option.bind_eq_bind, Option.bind_eq_some_iff, Prod.exists] at path
        obtain ⟨keys, rest, read, last, -, first, -, last, -, same⟩ := path
        cases same
        exact isSuffix_of_keys? noQuote read
      simp only [Option.bind_eq_bind, Option.bind_some]
      split
      · exact absurd (isSuffix.subset List.mem_cons_self) noSign
      · rfl

/-- What words are made of: bare keys, points and signs of numbers. -/
def isWordSign (c : Char) : Bool := isBareKeyChar c || c = '.' || c = '+'

/-- A word on a line of its own is no document. -/
theorem parse?_word (nonempty : cs ≠ []) (isWord : ∀ c ∈ cs, isWordSign c = true) :
    Document.parse? (String.ofList (cs ++ ['\n'])) = none := by
  have absent (sign : Char) (other : isWordSign sign = false) (noFeed : sign ≠ '\n') :
      sign ∉ cs ++ ['\n'] := by
    intro member
    rcases List.mem_append.mp member with inWord | isFeed
    · exact absurd (isWord sign inWord) (by simp [other])
    · exact noFeed (List.mem_singleton.mp isFeed)
  have noQuote : HasNoQuote (cs ++ ['\n']) :=
    ⟨absent _ (by decide) (by decide), absent _ (by decide) (by decide)⟩
  obtain ⟨c, rest, rfl⟩ := List.exists_cons_of_ne_nil nonempty
  have isSign := isWord c List.mem_cons_self
  have differs (sign : Char) (other : isWordSign sign = false) : c ≠ sign := by
    rintro rfl
    exact absurd isSign (by simp [other])
  have isLine : joinLineEnds (String.ofList (c :: rest ++ ['\n'])).toList =
      c :: (rest ++ ['\n']) := by
    rw [String.toList_ofList, joinLineEnds_of_noReturn (absent _ (by decide) (by decide))]
    rfl
  refine parse?_eq_none isLine (differs _ (by decide)) ?_ ?_
  · exact skipTrivia?_visible (differs _ (by decide))
      (by simp [isBlank, differs ' ' (by decide), differs '\t' (by decide)])
      (differs _ (by decide)) _
  · split
    · rename_i isHeader
      exact absurd (List.cons.inj isHeader).1 (differs '[' (by decide))
    · exact pair?_eq_none noQuote (absent _ (by decide) (by decide)) ""

/-! ## Strings of JSON -/

/-- An escape of four digits is read as a whole, if it stands for a character. -/
theorem escapedChar?_hex {digits : List Char} (four : digits.length = 4) (rest : List Char) :
    escapedChar? ('u' :: digits ++ rest) = none ∨
      ∃ meant, escapedChar? ('u' :: digits ++ rest) = some (meant, rest) := by
  have start : (digits ++ rest).take 4 = digits := by rw [← four, List.take_left]
  have behind : (digits ++ rest).drop 4 = rest := by rw [← four, List.drop_left]
  simp only [List.cons_append, escapedChar?, List.lookup_cons, List.lookup_nil, Char.reduceBEq,
    start, behind, Option.bind_eq_bind]
  cases digits.mapM Text.hexValue? with
  | none => exact .inl rfl
  | some values =>
      rw [Option.bind_some]
      split
      · exact .inl rfl
      · cases charOfCode? (values.foldl (fun n d => n * 16 + d) 0) with
        | none => exact .inl rfl
        | some meant => exact .inr ⟨meant, rfl⟩

/-- A character of a JSON string, which is no quote or escaped in a way that is known here too. -/
theorem json_escapeChar_cases (c : Char) :
    (Json.escapeChar c = [c] ∧ c ≠ '"' ∧ c ≠ '\\' ∧ c ≠ '\r') ∨
      ∃ code, Json.escapeChar c = '\\' :: code ∧ '\r' ∉ code ∧
        ∀ rest, escapedChar? (code ++ rest) = none ∨
          ∃ meant, escapedChar? (code ++ rest) = some (meant, rest) := by
  unfold Json.escapeChar
  split
  case h_8 noQuote noEscape _ noReturn _ _ _ =>
    split
    · rename_i control
      have isHex : ∀ k < 16, '\r' ≠ Nat.digitChar k := by decide
      refine .inr ⟨_, rfl, ?_, fun rest => ?_⟩
      · simp [Text.hexDigits, isHex _ (Nat.mod_lt _ (by decide : 16 > 0))]
      · exact escapedChar?_hex (by simp [Text.hexDigits]) rest
    · exact .inl ⟨rfl, noQuote, noEscape, noReturn⟩
  all_goals exact .inr ⟨_, rfl, by decide, fun rest => .inr ⟨_, rfl⟩⟩

/-- A quoted string of JSON is read up to its closing quote, if it is accepted at all. -/
theorem lineString?_json (s rest : List Char) (fuel : Nat) (reversed : List Char) :
    lineString? '"' fuel reversed (s.flatMap Json.escapeChar ++ '"' :: rest) = none ∨
      ∃ name, lineString? '"' fuel reversed (s.flatMap Json.escapeChar ++ '"' :: rest) =
        some (name, rest) := by
  induction s generalizing fuel reversed with
  | nil =>
      obtain _ | fuel := fuel
      · exact .inl rfl
      · exact .inr ⟨_, lineString?_close ..⟩
  | cons c s ih =>
      obtain _ | fuel := fuel
      · exact .inl rfl
      rw [List.flatMap_cons, List.append_assoc]
      rcases json_escapeChar_cases c with ⟨plain, noQuote, noEscape, -⟩ | ⟨code, escaped, -, back⟩
      · rw [plain, List.singleton_append]
        by_cases printable : isPrintable c = true
        · rw [lineString?_plain noQuote (fun _ => noEscape) printable]
          exact ih ..
        · exact .inl (by simp [lineString?, noQuote, noEscape, printable])
      · rw [escaped, List.cons_append]
        rcases back (s.flatMap Json.escapeChar ++ '"' :: rest) with bad | ⟨meant, read⟩
        · exact .inl (by simp [lineString?, bad])
        · rw [lineString?_escape read]
          exact ih ..

/-- What comes after a string of JSON as a key. -/
theorem keys?_json (s : List Char) (fuel : Nat) :
    keys? (fuel + 1) ('"' :: (s.flatMap Json.escapeChar ++ '"' :: ['\n'])) = none ∨
      ∃ key, keys? (fuel + 1) ('"' :: (s.flatMap Json.escapeChar ++ '"' :: ['\n'])) =
        some ([key], ['\n']) := by
  have noBlanks : ('"' :: (s.flatMap Json.escapeChar ++ '"' :: ['\n'])).dropWhile isBlank =
      '"' :: (s.flatMap Json.escapeChar ++ '"' :: ['\n']) := List.dropWhile_cons_of_neg (by decide)
  have isName : keyName? ('"' :: (s.flatMap Json.escapeChar ++ '"' :: ['\n'])) =
      lineString? '"' ((s.flatMap Json.escapeChar ++ '"' :: ['\n']).length + 1) []
        (s.flatMap Json.escapeChar ++ '"' :: ['\n']) := rfl
  unfold keys?
  rw [noBlanks]
  dsimp only
  rw [isName]
  rcases lineString?_json s ['\n'] ((s.flatMap Json.escapeChar ++ '"' :: ['\n']).length + 1) [] with
    bad | ⟨name, read⟩
  · rw [bad]
    exact .inl rfl
  · rw [read]
    exact .inr ⟨_, rfl⟩

/-- A string of JSON on a line of its own is no document. -/
theorem parse?_jsonQuote (s : String) : Document.parse? (Json.quote s ++ "\n") = none := by
  have isText : (Json.quote s ++ "\n").toList =
      '"' :: (s.toList.flatMap Json.escapeChar ++ '"' :: ['\n']) := by
    simp [Json.quote]
  have noReturn : '\r' ∉ (Json.quote s ++ "\n").toList := by
    have inEscapes (c : Char) : '\r' ∉ Json.escapeChar c := by
      rcases json_escapeChar_cases c with ⟨plain, -, -, differs⟩ | ⟨code, escaped, noReturn, -⟩
      · simp [plain, Ne.symm differs]
      · simp [escaped, noReturn]
    simp [isText, inEscapes]
  refine parse?_eq_none (c := '"') ((joinLineEnds_of_noReturn noReturn).trans isText) (by decide)
    (skipTrivia?_visible (by decide) rfl (by decide) _) ?_
  change pair? "" _ = none
  unfold pair? keyPath?
  rcases keys?_json s.toList _ with bad | ⟨key, read⟩
  · rw [bad]
    rfl
  · rw [read]
    rfl

/-! ## Values of JSON -/

/-- A text that is a word. -/
structure IsWord (cs : List Char) : Prop where
  nonempty : cs ≠ []
  signs : ∀ c ∈ cs, isWordSign c = true

theorem isWordSign_toDigits (n : Nat) : ∀ c ∈ Nat.toDigits 10 n, isWordSign c = true := by
  intro c member
  have isDigit := Nat.isDigit_of_mem_toDigits (by decide) (by decide) member
  simp [isWordSign, isBareKeyChar, Char.isAlphanum, isDigit]

theorem isWord_toString (n : Int) : IsWord (toString n).toList := by
  cases n with
  | ofNat n =>
      have isText : (toString (Int.ofNat n)).toList = Nat.toDigits 10 n := String.toList_ofList
      exact isText ▸ ⟨Nat.toDigits_ne_nil, isWordSign_toDigits n⟩
  | negSucc n =>
      have isText : (toString (Int.negSucc n)).toList = '-' :: Nat.toDigits 10 (n + 1) := by
        simp [toString, Int.repr]
      exact isText ▸ ⟨List.cons_ne_nil _ _, List.forall_mem_cons.mpr ⟨rfl, isWordSign_toDigits _⟩⟩

theorem isWord_positional {digits : List Char} (signs : ∀ c ∈ digits, isWordSign c = true)
    (point : Int) : IsWord (Number.DoubleLayout.positional digits point) := by
  have zeros (n : Nat) : ∀ c ∈ List.replicate n '0', isWordSign c = true := by
    intro c member
    rw [List.eq_of_mem_replicate member]
    rfl
  unfold Number.DoubleLayout.positional
  split
  · refine ⟨by simp, ?_⟩
    simp only [List.cons_append, List.forall_mem_cons, List.forall_mem_append]
    exact ⟨rfl, rfl, zeros _, signs⟩
  · split
    · refine ⟨by simp, ?_⟩
      simp only [List.forall_mem_append, List.forall_mem_cons]
      exact ⟨fun c member => signs c (List.mem_of_mem_take member), rfl,
        fun c member => signs c (List.mem_of_mem_drop member)⟩
    · refine ⟨by simp, ?_⟩
      simp only [List.forall_mem_append, List.forall_mem_cons]
      exact ⟨⟨signs, zeros _⟩, rfl, rfl, nofun⟩

theorem isWord_scientific (layout : Number.DoubleLayout) {digits : List Char}
    (signs : ∀ c ∈ digits, isWordSign c = true) (point : Int) :
    IsWord (layout.scientific digits point) := by
  unfold Number.DoubleLayout.scientific
  refine ⟨by simp, ?_⟩
  simp only [List.forall_mem_append, List.forall_mem_cons]
  refine ⟨⟨?_, rfl, ?_⟩, isWordSign_toDigits _⟩
  · split
    · simp only [List.forall_mem_cons] at signs ⊢
      exact ⟨signs.1, rfl, signs.2⟩
    · exact signs
  · split
    · simp [isWordSign, isBareKeyChar]
    · split <;> simp [isWordSign]

theorem isWord_doubleText (layout : Number.DoubleLayout) (x : Double) :
    IsWord (layout.text x).toList := by
  unfold Number.DoubleLayout.text
  rw [String.toList_ofList]
  have body : IsWord (if x.units = 0 then ['0', '.', '0']
      else
        let decimal := Number.shortest x.units
        let digits := Nat.toDigits 10 decimal.digits
        let point := decimal.exponent + digits.length
        if layout.leastPoint ≤ point && point ≤ layout.greatestPoint then
          Number.DoubleLayout.positional digits point
        else layout.scientific digits point) := by
    split
    · exact ⟨nofun, List.all_eq_true.mp rfl⟩
    · dsimp only
      split
      · exact isWord_positional (isWordSign_toDigits _) _
      · exact isWord_scientific layout (isWordSign_toDigits _) _
  dsimp only at body ⊢
  split
  · exact ⟨List.cons_ne_nil _ _, List.forall_mem_cons.mpr ⟨rfl, body.signs⟩⟩
  · exact body

theorem isWord_numberText (n : JsonNumber) : IsWord (Json.numberText n).toList := by
  cases n with
  | whole value => exact isWord_toString value
  | double value => exact isWord_doubleText _ value

/-- The indented text of a JSON value is no document. -/
theorem parse?_pretty (value : Json) : Document.parse? (value.pretty 0 ++ "\n") = none := by
  have word {text : String} (isWord : IsWord text.toList) :
      Document.parse? (text ++ "\n") = none := by
    have read := parse?_word isWord.nonempty isWord.signs
    rwa [String.ofList_append, String.ofList_toList] at read
  cases value with
  | null => exact word ⟨nofun, List.all_eq_true.mp rfl⟩
  | bool b => cases b <;> exact word ⟨nofun, List.all_eq_true.mp rfl⟩
  | number n => exact word (isWord_numberText n)
  | string s => exact parse?_jsonQuote s
  | array items =>
      obtain ⟨c, cs, isText, isNext⟩ : ∃ c cs, ((Json.array items).pretty 0 ++ "\n").toList =
          '[' :: c :: cs ∧ (c = ']' ∨ c = '\n') := by
        cases items <;> simp [Json.pretty]
      have next : c ≠ '\r' ∧ c ≠ '[' ∧ BeginsNoKey c := by
        rcases isNext with rfl | rfl
        all_goals exact ⟨by decide, by decide, ⟨rfl, rfl, by decide, by decide⟩⟩
      exact parse?_eq_none_of_bracket isText next.1 next.2.1 next.2.2
  | object members =>
      obtain ⟨cs, isText⟩ : ∃ cs, ((Json.object members).pretty 0 ++ "\n").toList =
          '\x7b' :: cs := by
        cases members <;> simp [Json.pretty]
      exact parse?_eq_none_of_head isText (by decide) (by decide) (by decide) (by decide)
        (by decide) ⟨rfl, rfl, by decide, by decide⟩

end TypedClient.Toml

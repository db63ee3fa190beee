/-
# What an expression reads of a variable

Generated code takes its arguments apart in three ways: it passes one on as it is, it reads a
property off it, or it builds an object with such an expression under each key. The readers here
tell from the text of an expression what it reads.
-/

import TypedClient.Proofs.Script.TemplateLiteral

namespace TypedClient.Script

/-- What is read of a variable. -/
inductive Reading where
  /-- The value itself. -/
  | whole
  /-- A property of the value. -/
  | property (key : String)
  deriving DecidableEq, Repr

/-! ## Readers -/

/-- Reads a variable, or a property of it, at the start of a text. -/
def readReading (name : String) (text : List Char) : Option (Reading × List Char) :=
  if text.takeWhile isNamePart = name.toList then
    let rest := text.dropWhile isNamePart
    if rest.head? = some '.' ∨ rest.head? = some '[' then
      (readAccess rest).map fun (key, rest) => (.property (String.ofList key), rest)
    else some (.whole, rest)
  else none

/-- The key of an entry of an object, a literal or a name, and the text after it. -/
def readKey (text : List Char) : Option (List Char × List Char) :=
  if text.head? = some '"' then readString text else readAccess ('.' :: text)

/-- The text after blanks. -/
def skipBlanks (text : List Char) : List Char := text.dropWhile (· == ' ')

/-- What the entries of an object read, up to the closing brace that the text ends with. The fuel
is the number of entries at most. -/
def readEntries (name : String) : (fuel : Nat) → List Char → Option (List Reading)
  | 0, _ => none
  | fuel + 1, text => do
    let (_, rest) ← readKey (skipBlanks text)
    match skipBlanks rest with
    | ':' :: rest =>
      let (reading, rest) ← readReading name (skipBlanks rest)
      match skipBlanks rest with
      | ',' :: rest => (readEntries name fuel rest).map (reading :: ·)
      | ['}'] => some [reading]
      | _ => none
    | _ => none

/-- All that an expression reads of a variable, if it is made of nothing else. -/
def readings? (name : String) (text : String) : Option (List Reading) :=
  match text.toList with
  | '{' :: rest => readEntries name rest.length rest
  | text =>
    match readReading name text with
    | some (reading, []) => some [reading]
    | _ => none

/-! ## Properties -/

/-- A text that is one name. -/
structure IsVariable (name : String) : Prop where
  isName : ∀ c ∈ name.toList, isNamePart c = true
  notEmpty : name ≠ ""

theorem IsVariable.exists_cons {name : String} (isVariable : IsVariable name) :
    ∃ first tail, name.toList = first :: tail ∧ isNamePart first = true := by
  obtain ⟨isName, notEmpty⟩ := isVariable
  obtain ⟨first, tail, shape⟩ : ∃ first tail, name.toList = first :: tail :=
    List.exists_cons_of_ne_nil (by simpa using notEmpty)
  exact ⟨first, tail, shape, isName first (shape ▸ List.mem_cons_self)⟩

variable {name key : String} {rest : List Char}

/-- A text that a name before it does not go on with. -/
def EndsName (rest : List Char) : Prop := ∀ c ∈ rest.head?, isNamePart c = false

theorem endsName_nil : EndsName [] := nofun

theorem endsName_cons {c : Char} (isSign : isNamePart c = false) : EndsName (c :: rest) := by
  rintro _ ⟨⟩
  exact isSign

theorem takeWhile_name (isName : ∀ c ∈ name.toList, isNamePart c = true) (ends : EndsName rest) :
    (name.toList ++ rest).takeWhile isNamePart = name.toList := by
  rw [List.takeWhile_append_of_pos isName]
  cases rest with
  | nil => exact List.append_nil _
  | cons c rest => rw [List.takeWhile_cons_of_neg (by simp [ends c rfl]), List.append_nil]

theorem dropWhile_name (isName : ∀ c ∈ name.toList, isNamePart c = true) (ends : EndsName rest) :
    (name.toList ++ rest).dropWhile isNamePart = rest := by
  rw [List.dropWhile_append_of_pos isName]
  cases rest with
  | nil => rfl
  | cons c rest => exact List.dropWhile_cons_of_neg (by simp [ends c rfl])

/-- A variable that is not taken apart is read as a whole. -/
theorem readReading_name (isName : ∀ c ∈ name.toList, isNamePart c = true) :
    readReading name name.toList = some (.whole, []) := by
  have taken := takeWhile_name isName endsName_nil
  have dropped := dropWhile_name isName endsName_nil
  rw [List.append_nil] at taken dropped
  rw [readReading, if_pos taken, dropped]
  rfl

/-- A variable in front of a property access reads the property. -/
theorem readReading_access {sign : Char} {key after : List Char}
    (isName : ∀ c ∈ name.toList, isNamePart c = true) (isSign : sign = '.' ∨ sign = '[')
    (access : readAccess (sign :: rest) = some (key, after)) :
    readReading name (name.toList ++ sign :: rest) =
      some (.property (String.ofList key), after) := by
  have ends : EndsName (sign :: rest) :=
    endsName_cons (by rcases isSign with rfl | rfl <;> decide)
  have isAccess : (sign :: rest).head? = some '.' ∨ (sign :: rest).head? = some '[' := by
    simpa using isSign
  rw [readReading, if_pos (takeWhile_name isName ends), dropWhile_name isName ends]
  rw [if_pos isAccess, access]
  rfl

/-- A property access reads the property that it was written for. -/
theorem readReading_propertyAccess (isName : ∀ c ∈ name.toList, isNamePart c = true)
    (key : String) (ends : EndsName rest) :
    readReading name ((Naming.propertyAccess name key).toList ++ rest) =
      some (.property key, rest) := by
  cases plain : Naming.needsQuotes key with
  | false =>
      have text : (Naming.propertyAccess name key).toList ++ rest =
          name.toList ++ '.' :: (key.toList ++ rest) := by
        simp [Naming.propertyAccess, plain]
      rw [text, readReading_access isName (Or.inl rfl) (readAccess_name plain ends),
        String.ofList_toList]
  | true =>
      have text : (Naming.propertyAccess name key).toList ++ rest =
          name.toList ++ '[' :: ((Naming.quoteLiteral key).toList ++ ']' :: rest) := by
        simp [Naming.propertyAccess, plain]
      rw [text, readReading_access isName (Or.inr rfl) (readAccess_literal key rest),
        String.ofList_toList]

/-! ## Objects -/

/-- A key that needs no quotes is a text that begins with neither a quote nor a blank. -/
theorem exists_cons_of_needsQuotes_eq_false (plain : Naming.needsQuotes key = false) :
    ∃ first tail, key.toList = first :: tail ∧ first ≠ '"' ∧ first ≠ ' ' := by
  unfold Naming.needsQuotes at plain
  split at plain
  · cases plain
  · rename_i first tail shape
    simp only [Bool.not_eq_false', Bool.and_eq_true] at plain
    refine ⟨first, tail, shape, ?_, ?_⟩ <;> rintro rfl <;> exact absurd plain.1 (by decide)

/-- A property key is read as the key that it was written for. -/
theorem readKey_propertyKey (key : String) (ends : EndsName rest) :
    readKey ((Naming.propertyKey key).toList ++ rest) = some (key.toList, rest) := by
  cases plain : Naming.needsQuotes key with
  | false =>
      have notQuote : (key.toList ++ rest).head? ≠ some '"' := by
        obtain ⟨first, tail, shape, notQuote, -⟩ := exists_cons_of_needsQuotes_eq_false plain
        simpa [shape] using notQuote
      rw [Naming.propertyKey, plain, if_neg Bool.false_ne_true, readKey, if_neg notQuote,
        readAccess_name plain ends]
  | true =>
      have isQuote : ((Naming.quoteLiteral key).toList ++ rest).head? = some '"' := by
        simp [Naming.quoteLiteral]
      rw [Naming.propertyKey, plain, if_pos rfl, readKey, if_pos isQuote,
        readString_quoteLiteral]

/-- A property key does not begin with a blank. -/
theorem skipBlanks_propertyKey (key : String) :
    skipBlanks ((Naming.propertyKey key).toList ++ rest) =
      (Naming.propertyKey key).toList ++ rest := by
  have start : ∃ first tail, (Naming.propertyKey key).toList = first :: tail ∧ first ≠ ' ' := by
    cases plain : Naming.needsQuotes key with
    | false =>
        obtain ⟨first, tail, shape, -, notBlank⟩ := exists_cons_of_needsQuotes_eq_false plain
        exact ⟨first, tail, by simpa [Naming.propertyKey, plain] using shape, notBlank⟩
    | true => exact ⟨'"', _, by simp [Naming.propertyKey, plain, Naming.quoteLiteral]; rfl,
        by decide⟩
  obtain ⟨first, tail, shape, notBlank⟩ := start
  rw [shape, List.cons_append]
  exact List.dropWhile_cons_of_neg (by simpa using notBlank)

theorem skipBlanks_blank (rest : List Char) : skipBlanks (' ' :: rest) = skipBlanks rest := rfl

theorem skipBlanks_sign {sign : Char} (notBlank : sign ≠ ' ') (rest : List Char) :
    skipBlanks (sign :: rest) = sign :: rest :=
  List.dropWhile_cons_of_neg (by simpa using notBlank)

/-- A property access begins with the variable. -/
theorem exists_cons_propertyAccess (isVariable : IsVariable name) (key : String) :
    ∃ first tail, (Naming.propertyAccess name key).toList = first :: tail ∧
      isNamePart first = true := by
  obtain ⟨first, tail, shape, isPart⟩ := isVariable.exists_cons
  cases plain : Naming.needsQuotes key <;>
    exact ⟨first, _, by simp [Naming.propertyAccess, plain, shape]; rfl, isPart⟩

theorem skipBlanks_propertyAccess (isVariable : IsVariable name) (key : String) :
    skipBlanks ((Naming.propertyAccess name key).toList ++ rest) =
      (Naming.propertyAccess name key).toList ++ rest := by
  obtain ⟨first, tail, shape, isPart⟩ := exists_cons_propertyAccess isVariable key
  have notBlank : first ≠ ' ' := by
    rintro rfl
    exact absurd isPart (by decide)
  rw [shape, List.cons_append, skipBlanks_sign notBlank]

/-- An entry that reads a property under its own name. -/
def propertyEntry (name key : String) : String :=
  Naming.propertyKey key ++ ": " ++ Naming.propertyAccess name key

/-- An object with such an entry for each key. -/
def propertyObject (name : String) (keys : List String) : String :=
  "\x7b " ++ ", ".intercalate (keys.map (propertyEntry name)) ++ " \x7d"

/-- What an entry reads, in front of whatever may follow it. -/
theorem readEntries_propertyEntry (isVariable : IsVariable name) (key : String)
    (ends : EndsName rest) (fuel : Nat) :
    readEntries name (fuel + 1) (' ' :: ((propertyEntry name key).toList ++ rest)) =
      match skipBlanks rest with
      | ',' :: rest => (readEntries name fuel rest).map (.property key :: ·)
      | ['}'] => some [.property key]
      | _ => none := by
  let access := (Naming.propertyAccess name key).toList ++ rest
  have text : (propertyEntry name key).toList ++ rest =
      (Naming.propertyKey key).toList ++ ':' :: ' ' :: access := by
    simp [propertyEntry, access]
  have beforeColon : EndsName (':' :: ' ' :: access) := endsName_cons (by decide)
  have isKey := readKey_propertyKey key beforeColon
  have colon : skipBlanks (':' :: ' ' :: access) = ':' :: ' ' :: access :=
    skipBlanks_sign (by decide) _
  have isAccess : skipBlanks (' ' :: access) = access :=
    skipBlanks_propertyAccess isVariable key
  have read : readReading name access = some (.property key, rest) :=
    readReading_propertyAccess isVariable.isName key ends
  rw [readEntries, skipBlanks_blank, text, skipBlanks_propertyKey, isKey]
  simp only [Option.bind_eq_bind, Option.bind_some, colon, isAccess, read]

/-- The entries of an object are read in order. -/
theorem readEntries_propertyObject (isVariable : IsVariable name) (key : String)
    (keys : List String) {fuel : Nat} (enough : keys.length < fuel) :
    readEntries name fuel
        (' ' :: ((", ".intercalate ((key :: keys).map (propertyEntry name))).toList ++
          [' ', '}'])) =
      some ((key :: keys).map .property) := by
  induction keys generalizing key fuel with
  | nil =>
      obtain ⟨fuel, rfl⟩ := Nat.exists_eq_add_of_lt enough
      have ends : EndsName [' ', '}'] := endsName_cons (by decide)
      rw [List.map_singleton, String.intercalate_singleton,
        readEntries_propertyEntry isVariable key ends]
      rfl
  | cons next keys ih =>
      obtain ⟨fuel, rfl⟩ := Nat.exists_eq_succ_of_ne_zero (Nat.ne_zero_of_lt enough)
      let others := (", ".intercalate ((next :: keys).map (propertyEntry name))).toList ++
        [' ', '}']
      have text : (", ".intercalate ((key :: next :: keys).map (propertyEntry name))).toList ++
          [' ', '}'] = (propertyEntry name key).toList ++ ',' :: ' ' :: others := by
        simp [others, String.intercalate_cons_cons]
      have ends : EndsName (',' :: ' ' :: others) := endsName_cons (by decide)
      have comma : skipBlanks (',' :: ' ' :: others) = ',' :: ' ' :: others :=
        skipBlanks_sign (by decide) _
      rw [text, readEntries_propertyEntry isVariable key ends, comma]
      simp only [others]
      rw [ih next (Nat.lt_of_succ_lt_succ enough)]
      rfl

/-! ## Expressions -/

/-- An expression that begins with a name is no object. -/
theorem readings?_of_isNamePart {text : String} {first : Char} {tail : List Char}
    (shape : text.toList = first :: tail) (isPart : isNamePart first = true) {reading : Reading}
    (read : readReading name text.toList = some (reading, [])) :
    readings? name text = some [reading] := by
  unfold readings?
  split
  · rename_i rest opens
    cases shape.symm.trans opens
    exact absurd isPart (by decide)
  · rw [read]

/-- A variable by itself is read as a whole. -/
theorem readings?_name (isVariable : IsVariable name) :
    readings? name name = some [.whole] := by
  obtain ⟨first, tail, shape, isPart⟩ := isVariable.exists_cons
  exact readings?_of_isNamePart shape isPart (readReading_name isVariable.isName)

/-- A property access reads the one property. -/
theorem readings?_propertyAccess (isVariable : IsVariable name) (key : String) :
    readings? name (Naming.propertyAccess name key) = some [.property key] := by
  obtain ⟨first, tail, shape, isPart⟩ := exists_cons_propertyAccess isVariable key
  have read := readReading_propertyAccess isVariable.isName key endsName_nil
  rw [List.append_nil] at read
  exact readings?_of_isNamePart shape isPart read

/-- Texts are separated by at least as many characters as there are texts but one. -/
theorem length_le_length_intercalate (text : String) (texts : List String) :
    texts.length ≤ (", ".intercalate (text :: texts)).toList.length := by
  induction texts generalizing text with
  | nil => exact Nat.zero_le _
  | cons next texts ih =>
      have := ih next
      simp only [String.intercalate_cons_cons, String.toList_append, List.length_append,
        List.length_cons] at this ⊢
      have : ", ".toList.length = 2 := rfl
      omega

/-- An object of properties under their own names reads these in order. -/
theorem readings?_propertyObject (isVariable : IsVariable name) {keys : List String}
    (someKey : keys ≠ []) :
    readings? name (propertyObject name keys) = some (keys.map .property) := by
  obtain ⟨key, keys, rfl⟩ := List.exists_cons_of_ne_nil someKey
  let entries := ", ".intercalate ((key :: keys).map (propertyEntry name))
  have text : (propertyObject name (key :: keys)).toList =
      '{' :: ' ' :: (entries.toList ++ [' ', '}']) := by
    simp [propertyObject, entries]
  have enough : keys.length < (' ' :: (entries.toList ++ [' ', '}'])).length := by
    have := length_le_length_intercalate (propertyEntry name key) (keys.map (propertyEntry name))
    simp only [List.length_map, ← List.map_cons] at this
    simp only [List.length_cons, List.length_append, entries]
    omega
  unfold readings?
  rw [text]
  exact readEntries_propertyObject isVariable key keys enough

end TypedClient.Script

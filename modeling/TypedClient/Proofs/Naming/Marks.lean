/-
# Marks in function names

A function is named by the words of its operation, in the case that the policy demands. Words hold
letters and digits only, but the case mappings of some letters bring in combining marks, and making
a name legal looks at its first character and at the reserved words alone. So the name is an
identifier exactly if no such letter is mapped. Nothing else can go wrong with it: it starts like an
identifier and is no reserved word, and every other character is a mark.
-/

import TypedClient.Proofs.Naming.Initial
import TypedClient.Proofs.Naming.Stable
import TypedClient.Proofs.Text.Letters

namespace TypedClient

namespace Naming

/-! ## Words -/

theorem flatten_splitFrom (p : Char → Bool) (current cs : List Char) :
    (Text.splitFrom p current cs).flatten = current.reverse ++ cs.filter (!p ·) := by
  induction cs generalizing current with
  | nil => simp [Text.splitFrom]
  | cons c rest ih =>
    rw [Text.splitFrom]
    by_cases separates : p c = true
    · simp [separates, ih]
    · simp [separates, ih]

theorem flatten_wordsOfChunk (current chunk : List Char) :
    (wordsOfChunk current chunk).flatten = current.reverse ++ chunk := by
  fun_induction wordsOfChunk current chunk with
  | case1 => rfl
  | case2 current _ => simp
  | case3 c rest ih => simpa using ih
  | case4 before current c rest _ ih => simp [ih]
  | case5 before current c rest _ ih => simpa using ih

/-- The words of a name are made of its letters and digits, each once and in order. -/
theorem flatten_splitWords (name : String) : (splitWords name).flatten = letters name := by
  have ofChunks (chunks : List (List Char)) :
      (chunks.flatMap (wordsOfChunk [])).flatten = chunks.flatten := by
    induction chunks with
    | nil => rfl
    | cons chunk chunks ih =>
      rw [List.flatMap_cons, List.flatten_append, ih, flatten_wordsOfChunk, List.flatten_cons]
      rfl
  rw [splitWords, ofChunks, Text.splitOn, flatten_splitFrom, letters]
  simp

theorem isAlphanumeric_of_mem_splitWords {name : String} {word : List Char}
    (isWord : word ∈ splitWords name) : ∀ c ∈ word, Text.isAlphanumeric c = true := by
  intro c member
  have inWords : c ∈ (splitWords name).flatten := List.mem_flatten_of_mem isWord member
  rw [flatten_splitWords] at inWords
  exact (List.mem_filter.mp inWords).2

/-! ## Marks -/

/-- Whether the lower case of a word brings in no mark. -/
def lowersPlainly (word : List Char) : Bool :=
  word.all (· != Text.dottedCapital)

/-- Whether a word gets its capital, and the rest its lower case, without a mark. -/
def capitalizesPlainly : List Char → Bool
  | [] => true
  | first :: rest => !Text.markedSmalls.contains first && lowersPlainly rest

/-- A text of identifier characters, with some marks among them exactly if it is not plain. -/
structure ShowsMarks (plain : Bool) (text : List Char) : Prop where
  chars : ∀ c ∈ text, isIdentifierPart c = true ∨ plain = false ∧ c ∈ Text.combiningMarks
  marks : plain = false → ∃ mark ∈ text, mark ∈ Text.combiningMarks

theorem isIdentifierPart_of_isAlphanumeric {c : Char} (letter : Text.isAlphanumeric c = true) :
    isIdentifierPart c = true := by
  rw [isIdentifierPart, letter, Bool.true_or, Bool.true_or]

/-- Identifiers hold no marks. -/
theorem isIdentifierPart_of_mem_combiningMarks {mark : Char} (isMark : mark ∈ Text.combiningMarks) :
    isIdentifierPart mark = false := by
  have signs : '_' ∉ Text.combiningMarks ∧ '$' ∉ Text.combiningMarks := by decide
  have notUnderscore : mark ≠ '_' := fun same => signs.1 (same ▸ isMark)
  have notDollar : mark ≠ '$' := fun same => signs.2 (same ▸ isMark)
  simp [isIdentifierPart, Text.isAlphanumeric_of_mem_combiningMarks mark isMark, notUnderscore,
    notDollar]

namespace ShowsMarks

variable {plain other : Bool} {text back : List Char}

/-- Marks are what keeps a text from being plain. -/
theorem forall_isIdentifierPart_iff (shows : ShowsMarks plain text) :
    (∀ c ∈ text, isIdentifierPart c = true) ↔ plain = true := by
  constructor
  · intro parts
    by_contra notPlain
    obtain ⟨mark, member, isMark⟩ := shows.marks (Bool.eq_false_of_not_eq_true notPlain)
    have part := parts mark member
    rw [isIdentifierPart_of_mem_combiningMarks isMark] at part
    cases part
  · rintro rfl c member
    rcases shows.chars c member with part | ⟨isFalse, -⟩
    · exact part
    · cases isFalse

theorem ofParts (parts : ∀ c ∈ text, isIdentifierPart c = true) : ShowsMarks true text :=
  ⟨fun c member => Or.inl (parts c member), nofun⟩

theorem nil : ShowsMarks true [] :=
  ofParts fun _ member => absurd member List.not_mem_nil

theorem append (front : ShowsMarks plain text) (rest : ShowsMarks other back) :
    ShowsMarks (plain && other) (text ++ back) := by
  constructor
  · intro c member
    rcases List.mem_append.mp member with inText | inBack
    · rcases front.chars c inText with part | ⟨rfl, isMark⟩
      · exact Or.inl part
      · exact Or.inr ⟨Bool.false_and other, isMark⟩
    · rcases rest.chars c inBack with part | ⟨rfl, isMark⟩
      · exact Or.inl part
      · exact Or.inr ⟨Bool.and_false plain, isMark⟩
  · intro notPlain
    rcases Bool.and_eq_false_iff.mp notPlain with inFront | inRest
    · obtain ⟨mark, member, isMark⟩ := front.marks inFront
      exact ⟨mark, List.mem_append_left back member, isMark⟩
    · obtain ⟨mark, member, isMark⟩ := rest.marks inRest
      exact ⟨mark, List.mem_append_right text member, isMark⟩

variable {α : Type} {items : List α} {isPlain : α → Bool} {write : α → List Char}

theorem flatMap (each : ∀ item ∈ items, ShowsMarks (isPlain item) (write item)) :
    ShowsMarks (items.all isPlain) (items.flatMap write) := by
  induction items with
  | nil => exact nil
  | cons item items ih =>
    obtain ⟨first, others⟩ := List.forall_mem_cons.mp each
    rw [List.all_cons, List.flatMap_cons]
    exact first.append (ih others)

/-- Texts with underscores between them. -/
theorem intercalate (each : ∀ item ∈ items, ShowsMarks (isPlain item) (write item)) :
    ShowsMarks (items.all isPlain) (List.intercalate ['_'] (items.map write)) := by
  have underscore : ShowsMarks true ['_'] := ofParts (List.forall_mem_singleton.mpr (by decide))
  induction items with
  | nil => exact nil
  | cons item items ih =>
    obtain ⟨first, others⟩ := List.forall_mem_cons.mp each
    cases items with
    | nil => simpa using first
    | cons next items =>
      rw [List.map_cons, List.map_cons, List.intercalate_cons_cons, List.append_assoc,
        List.all_cons, ← Bool.true_and (List.all (next :: items) isPlain)]
      exact first.append (underscore.append (ih others))

end ShowsMarks

variable {word : List Char} {c : Char}

theorem showsMarks_lowerOf (letter : Text.isAlphanumeric c = true) :
    ShowsMarks (c != Text.dottedCapital) (Text.lowerOf c) := by
  constructor
  · intro mapped isMapped
    rcases Text.mem_lowerOf_cases letter isMapped with letter | ⟨rfl, isMark⟩
    · exact Or.inl (isIdentifierPart_of_isAlphanumeric letter)
    · exact Or.inr ⟨bne_self_eq_false _, isMark⟩
  · intro isDotted
    rw [bne_eq_false_iff_eq.mp isDotted]
    exact Text.exists_mark_lowerOf

theorem showsMarks_upperOf (letter : Text.isAlphanumeric c = true) :
    ShowsMarks (!Text.markedSmalls.contains c) (Text.upperOf c) := by
  constructor
  · intro mapped isMapped
    rcases Text.mem_upperOf_cases letter isMapped with letter | ⟨marked, isMark⟩
    · exact Or.inl (isIdentifierPart_of_isAlphanumeric letter)
    · exact Or.inr ⟨by simpa using marked, isMark⟩
  · intro notPlain
    exact Text.exists_mark_upperOf c (by simpa using notPlain)

/-- In the lower case of a text only sigmas depend on their neighbours. -/
theorem showsMarks_lowercaseAfter (letters : ∀ c ∈ word, Text.isAlphanumeric c = true)
    (before : List Char) : ShowsMarks (lowersPlainly word) (Text.lowercaseAfter before word) := by
  induction word generalizing before with
  | nil => exact .nil
  | cons first rest ih =>
    obtain ⟨firstLetter, others⟩ := List.forall_mem_cons.mp letters
    have later := ih others (first :: before)
    rw [lowersPlainly, List.all_cons, Text.lowercaseAfter]
    split
    · rename_i isSigma
      have plain : (first != Text.dottedCapital) = true := by
        rw [beq_iff_eq.mp isSigma]
        decide
      rw [plain]
      refine ShowsMarks.append (.ofParts (List.forall_mem_singleton.mpr ?_)) later
      split <;> decide +kernel
    · exact (showsMarks_lowerOf firstLetter).append later

theorem showsMarks_lowercase (letters : ∀ c ∈ word, Text.isAlphanumeric c = true) :
    ShowsMarks (lowersPlainly word) (Text.lowercase word) :=
  showsMarks_lowercaseAfter letters []

theorem showsMarks_capitalize (letters : ∀ c ∈ word, Text.isAlphanumeric c = true) :
    ShowsMarks (capitalizesPlainly word) (capitalize word) := by
  cases word with
  | nil => exact .nil
  | cons first rest =>
    obtain ⟨firstLetter, others⟩ := List.forall_mem_cons.mp letters
    have rest := ShowsMarks.flatMap fun c member => showsMarks_lowerOf (others c member)
    exact (showsMarks_upperOf firstLetter).append rest

end Naming

/-! ## Names -/

/-- Whether a policy joins words without bringing in a mark. -/
def NamingPolicy.joinsPlainly : NamingPolicy → List (List Char) → Bool
  | .preserve, _ => true
  | .snake, words => words.all Naming.lowersPlainly
  | .pascal, words => words.all Naming.capitalizesPlainly
  | .camel, [] => true
  | .camel, first :: rest => Naming.lowersPlainly first && rest.all Naming.capitalizesPlainly

namespace Naming

theorem showsMarks_joinWords (name : String) (policy : NamingPolicy) :
    ShowsMarks (policy.joinsPlainly (splitWords name)) (joinWords name policy) := by
  have letters : ∀ word ∈ splitWords name, ∀ c ∈ word, Text.isAlphanumeric c = true :=
    fun _ => isAlphanumeric_of_mem_splitWords
  cases policy with
  | preserve =>
    exact .ofParts fun c member =>
      isIdentifierPart_of_isNameChar (isNameChar_of_mem_flattenList member)
  | snake => exact .intercalate fun word isWord => showsMarks_lowercase (letters word isWord)
  | pascal => exact .flatMap fun word isWord => showsMarks_capitalize (letters word isWord)
  | camel =>
    rw [joinWords]
    cases words : splitWords name with
    | nil => exact .nil
    | cons first rest =>
      rw [words] at letters
      obtain ⟨firstLetters, others⟩ := List.forall_mem_cons.mp letters
      exact (showsMarks_lowercase firstLetters).append
        (.flatMap fun word isWord => showsMarks_capitalize (others word isWord))

/-- What is made legal starts like an identifier and is no reserved word. -/
theorem sanitize_starts (name : String) :
    (∃ first rest, (sanitize name).toList = first :: rest ∧ isIdentifierStart first = true) ∧
      reservedWords.contains (sanitize name) = false := by
  have marked (text : String) : (∃ first rest, ("_" ++ text).toList = first :: rest ∧
      isIdentifierStart first = true) ∧ reservedWords.contains ("_" ++ text) = false :=
    ⟨⟨'_', text.toList, by simp, by decide⟩, not_reserved_of_underscore text⟩
  unfold sanitize
  split
  · exact ⟨⟨'_', "empty".toList, by decide, by decide⟩, by decide⟩
  · rename_i first rest shape
    by_cases start : isIdentifierStart first = true
    · simp only [start, if_true]
      split
      · exact marked name
      · rename_i free
        exact ⟨⟨first, rest, shape, start⟩, by simpa using free⟩
    · simp only [start, Bool.false_eq_true, if_false, not_reserved_of_underscore]
      exact ⟨(marked name).1, trivial⟩

/-- What is made legal has the characters of the name, and others that identifiers hold. -/
theorem mem_sanitize_cases {name : String} {c : Char} (member : c ∈ (sanitize name).toList) :
    c ∈ name.toList ∨ isIdentifierPart c = true := by
  by_cases isEmpty : name = ""
  · subst isEmpty
    have parts : ("_empty".toList.all isIdentifierPart) = true := by decide
    exact Or.inr (List.all_eq_true.mp parts c member)
  · rcases sanitize_cases isEmpty with same | marked
    · rw [same] at member
      exact Or.inl member
    · rw [marked, String.toList_append] at member
      rcases List.mem_append.mp member with isMark | inName
      · rw [List.mem_singleton.mp isMark]
        exact Or.inr (by decide)
      · exact Or.inl inName

/-- Making a name legal removes no character. -/
theorem isValidIdentifier_sanitize_iff {name : String} :
    isValidIdentifier (sanitize name) = true ↔ ∀ c ∈ name.toList, isIdentifierPart c = true := by
  refine ⟨fun valid c member => ?_, isValidIdentifier_sanitize⟩
  refine (isName_of_isValidIdentifier valid).part c ?_
  have nonempty : name ≠ "" := by
    rintro rfl
    cases member
  rcases sanitize_cases nonempty with same | marked
  · rwa [same]
  · rw [marked, String.toList_append]
    exact List.mem_append_right _ member

/-- The name of a function is an identifier exactly if the policy joins the words of the operation
without bringing in a mark. In any case it starts like an identifier and is no reserved word, and
all that it may hold besides the characters of identifiers are combining marks. -/
theorem functionName_isValid_iff (operationId? : Option String) (method path : String)
    (policy : NamingPolicy) :
    let raw := operationId?.getD (fallbackName method path)
    let name := functionName operationId? method path policy
    (isValidIdentifier name = true ↔ policy.joinsPlainly (splitWords raw) = true) ∧
    (∃ first rest, name.toList = first :: rest ∧ isIdentifierStart first = true) ∧
    reservedWords.contains name = false ∧
    ∀ c ∈ name.toList, isIdentifierPart c = true ∨ c ∈ Text.combiningMarks := by
  intro raw name
  have shows := showsMarks_joinWords raw policy
  obtain ⟨starts, free⟩ := sanitize_starts (String.ofList (joinWords raw policy))
  refine ⟨?_, starts, free, fun c member => ?_⟩
  · rw [← shows.forall_isIdentifierPart_iff, ← String.toList_ofList (l := joinWords raw policy)]
    exact isValidIdentifier_sanitize_iff
  · rcases mem_sanitize_cases member with inJoined | part
    · rw [String.toList_ofList] at inJoined
      exact (shows.chars c inJoined).imp_right And.right
    · exact Or.inl part

/-- The operation "cancel" of a Turkish service: in camel case the first letter leaves its dot
behind as a mark. -/
theorem functionName_not_isValid_dotted :
    functionName (some "\u0130ptalEt") "POST" "/iptal" .camel = "i\u0307ptalEt" ∧
    isValidIdentifier (functionName (some "\u0130ptalEt") "POST" "/iptal" .camel) = false := by
  decide +kernel

end Naming

end TypedClient

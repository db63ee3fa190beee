/-
# Places of complaints

The external formatter ends its complaint with the place of the fault, a line and a column in
parentheses. The place is looked for in the first parentheses of the whole text, and these decide:
if the message before the place has parentheses of its own, the place itself is never looked at. So
a complaint is traced to the unit of its line if its message opens no parenthesis, and else only if
the message happens to show the same line.
-/

import TypedClient.Command.Environment
import TypedClient.Compile.Basic
import TypedClient.Proofs.Module.Lines
import TypedClient.Proofs.Naming.Identifier
import TypedClient.Proofs.Text.Lines

namespace TypedClient

/-! ## Splitting at the first sign -/

namespace Text

variable {p : Char → Bool} {text before after : List Char}

theorem splitOnce_append_cons {c : Char} (cuts : p c = true) (absent : ∀ d ∈ before, p d = false)
    (rest : List Char) : splitOnce p (before ++ c :: rest) = some (before, rest) := by
  induction before with
  | nil => simp [splitOnce, cuts]
  | cons d before ih =>
      obtain ⟨first, others⟩ := List.forall_mem_cons.mp absent
      simp [splitOnce, first, ih others]

theorem splitOnce_eq_none_iff : splitOnce p text = none ↔ ∀ c ∈ text, p c = false := by
  induction text with
  | nil => simp [splitOnce]
  | cons c text ih => by_cases cuts : p c = true <;> simp [splitOnce, cuts, ih]

/-- A text is split at the first sign that cuts. -/
theorem eq_of_splitOnce (split : splitOnce p text = some (before, after)) :
    ∃ c, p c = true ∧ (∀ d ∈ before, p d = false) ∧ text = before ++ c :: after := by
  induction text generalizing before with
  | nil => cases split
  | cons c text ih =>
      unfold splitOnce at split
      split at split
      · rename_i cuts
        cases split
        exact ⟨c, cuts, List.forall_mem_nil _, rfl⟩
      · rename_i passes
        obtain ⟨⟨others, rest⟩, found, isPair⟩ := Option.map_eq_some_iff.mp split
        cases isPair
        obtain ⟨d, cuts, absent, rfl⟩ := ih found
        exact ⟨d, cuts, List.forall_mem_cons.mpr ⟨Bool.eq_false_iff.mpr passes, absent⟩, rfl⟩

/-- What is split off stays split off when the text goes on. -/
theorem splitOnce_append (split : splitOnce p text = some (before, after)) (rest : List Char) :
    splitOnce p (text ++ rest) = some (before, after ++ rest) := by
  obtain ⟨c, cuts, absent, rfl⟩ := eq_of_splitOnce split
  rw [List.append_assoc, List.cons_append]
  exact splitOnce_append_cons cuts absent _

/-- If nothing cuts a text, nor the sign behind it, both belong to the first part. -/
theorem mem_of_splitOnce_append_cons {c : Char} {rest : List Char}
    (uncut : splitOnce p text = none) (passes : p c = false)
    (split : splitOnce p (text ++ c :: rest) = some (before, after)) : c ∈ before := by
  induction text generalizing before with
  | nil =>
      rw [List.nil_append, splitOnce, passes, if_neg Bool.false_ne_true] at split
      obtain ⟨_, -, isPair⟩ := Option.map_eq_some_iff.mp split
      cases isPair
      exact List.mem_cons_self
  | cons d text ih =>
      obtain ⟨first, others⟩ := List.forall_mem_cons.mp (splitOnce_eq_none_iff.mp uncut)
      rw [List.cons_append, splitOnce, first, if_neg Bool.false_ne_true] at split
      obtain ⟨_, found, isPair⟩ := Option.map_eq_some_iff.mp split
      cases isPair
      exact List.mem_cons_of_mem d (ih (splitOnce_eq_none_iff.mpr others) found)

/-- Trimming leaves every visible character. -/
theorem mem_trimList {c : Char} {line : List Char} (member : c ∈ line)
    (visible : isWhiteSpace c = false) : c ∈ trimList line := by
  obtain ⟨before, after, isLine, blankBefore, blankAfter⟩ := exists_blanks_trimList line
  have apart : ∀ blanks : List Char, (∀ d ∈ blanks, isWhiteSpace d = true) → c ∉ blanks :=
    fun blanks blank inBlanks => Bool.false_ne_true (visible.symm.trans (blank c inBlanks))
  rw [isLine, List.mem_append, List.mem_append] at member
  rcases member with (inBefore | inside) | inAfter
  · exact absurd inBefore (apart before blankBefore)
  · exact inside
  · exact absurd inAfter (apart after blankAfter)

end Text

/-! ## Numbers -/

namespace Prettier

/-- Decimal digits that write a number of at most 64 bits. -/
structure IsNumeral (digits : List Char) (value : Nat) : Prop where
  nonempty : digits ≠ []
  isDigit : ∀ c ∈ digits, c.isDigit = true
  value_eq : Nat.ofDigitChars 10 digits 0 = value
  fits : value < Number.wordValues 64

/-- Numbers are written in decimal digits. -/
theorem isNumeral_toString {value : Nat} (fits : value < Number.wordValues 64) :
    IsNumeral (toString value).toList value := by
  have isText : (toString value).toList = Nat.toDigits 10 value := String.toList_ofList
  rw [isText]
  exact
    { nonempty := Nat.toDigits_ne_nil
      isDigit := fun _ => Nat.isDigit_of_mem_toDigits (by decide) (by decide)
      value_eq := Nat.ofDigitChars_toDigits (by decide) (by decide)
      fits }

theorem isWhiteSpace_of_isDigit {c : Char} (isDigit : c.isDigit = true) :
    Text.isWhiteSpace c = false := by
  have isAscii : Text.isAscii c = true := by
    have small : c.toNat ≤ 57 := (Char.isDigit_iff_toNat.mp isDigit).2
    exact decide_eq_true (by omega)
  have part : Naming.isIdentifierPart c = true := by
    simp [Naming.isIdentifierPart, Text.isAlphanumeric, Text.isNumeric, isAscii, isDigit]
  exact Naming.isWhiteSpace_of_isIdentifierPart part

namespace IsNumeral

variable {digits : List Char} {value : Nat}

theorem trimList_eq (isNumeral : IsNumeral digits value) : Text.trimList digits = digits := by
  have visible : ∀ c ∈ digits, Text.isWhiteSpace c = false :=
    fun c member => isWhiteSpace_of_isDigit (isNumeral.isDigit c member)
  exact Text.trimList_append_of_isTrimmed (List.forall_mem_nil _)
    { nonempty := isNumeral.nonempty
      first := fun c first => visible c (List.mem_of_head? first)
      last := fun c last => visible c (List.mem_of_getLast? last) }

theorem notMem (isNumeral : IsNumeral digits value) {c : Char} (noDigit : c.isDigit = false) :
    c ∉ digits :=
  fun member => Bool.false_ne_true (noDigit.symm.trans (isNumeral.isDigit c member))

theorem forall_ne (isNumeral : IsNumeral digits value) {c : Char} (noDigit : c.isDigit = false) :
    ∀ d ∈ digits, (d == c) = false :=
  fun _ member => beq_false_of_ne (ne_of_mem_of_not_mem member (isNumeral.notMem noDigit))

theorem number?_eq (isNumeral : IsNumeral digits value) : number? digits = some value := by
  have allDigits : digits.all Char.isDigit = true := List.all_eq_true.mpr isNumeral.isDigit
  have isValue : digits.foldl (fun n d => n * 10 + (d.toNat - '0'.toNat)) 0 = value := by
    rw [← isNumeral.value_eq, Nat.ofDigitChars]
    simp only [Nat.mul_comm]
  unfold number?
  rw [isNumeral.trimList_eq]
  split
  · exact absurd List.mem_cons_self (isNumeral.notMem (c := '+') (by decide))
  · simp only [allDigits, isValue]
    simp [isNumeral.nonempty, isNumeral.fits]

end IsNumeral

/-- What has a parenthesis in it is no number. -/
theorem number?_eq_none {cs : List Char} (opens : '(' ∈ cs) : number? cs = none := by
  have inside : '(' ∈ Text.trimList cs := Text.mem_trimList opens (by decide)
  have noDigits {digits : List Char} (member : '(' ∈ digits) : digits.all Char.isDigit = false :=
    List.all_eq_false.mpr ⟨'(', member, by decide⟩
  unfold number?
  split
  · rename_i rest isSigned
    rw [isSigned] at inside
    simp [noDigits (List.mem_of_ne_of_mem (by decide) inside)]
  · simp [noDigits inside]

/-- The line of a place, after its opening parenthesis. -/
def placeLine? (rest : List Char) : Option Nat := do
  let (line, rest) ← Text.splitOnce (· == ':') rest
  let (column, _) ← Text.splitOnce (· == ')') rest
  let _ ← number? column
  number? line

theorem errorLine?_eq (errors : List Char) :
    errorLine? errors = (Text.splitOnce (· == '(') errors).bind (placeLine? ·.2) := rfl

/-- A place ends before the next parenthesis opens, or it is none. -/
theorem placeLine?_append_open (place rest : List Char) :
    placeLine? (place ++ '(' :: rest) = placeLine? place := by
  unfold placeLine?
  cases beforeColon : Text.splitOnce (· == ':') place with
  | none =>
      -- All of the place belongs to the line then, with the parenthesis.
      cases further : Text.splitOnce (· == ':') (place ++ '(' :: rest) with
      | none => rfl
      | some parts =>
          have opens := Text.mem_of_splitOnce_append_cons beforeColon (by decide) further
          simp [number?_eq_none opens]
  | some parts =>
      obtain ⟨line, column⟩ := parts
      rw [Text.splitOnce_append beforeColon]
      cases beforeClose : Text.splitOnce (· == ')') column with
      | none =>
          cases further : Text.splitOnce (· == ')') (column ++ '(' :: rest) with
          | none => simp [beforeClose, further]
          | some parts =>
              have opens := Text.mem_of_splitOnce_append_cons beforeClose (by decide) further
              simp [beforeClose, further, number?_eq_none opens]
      | some parts => simp [beforeClose, Text.splitOnce_append beforeClose]

/-- A place does not depend on a blank behind it. -/
theorem placeLine?_concat_blank (place : List Char) :
    placeLine? (place ++ [' ']) = placeLine? place := by
  have uncut {p : Char → Bool} {text : List Char} (passes : p ' ' = false)
      (noCut : Text.splitOnce p text = none) : Text.splitOnce p (text ++ [' ']) = none := by
    rw [Text.splitOnce_eq_none_iff] at noCut ⊢
    exact List.forall_mem_append.mpr ⟨noCut, List.forall_mem_singleton.mpr passes⟩
  unfold placeLine?
  cases beforeColon : Text.splitOnce (· == ':') place with
  | none => rw [uncut (by decide) beforeColon]
  | some parts =>
      rw [Text.splitOnce_append beforeColon]
      cases beforeClose : Text.splitOnce (· == ')') parts.2 with
      | none => simp [beforeClose, uncut (by decide) beforeClose]
      | some parts => simp [beforeClose, Text.splitOnce_append beforeClose]

/-- The first parenthesis decides. -/
theorem errorLine?_append_open (message rest : List Char) :
    errorLine? (message ++ ' ' :: '(' :: rest) =
      if '(' ∈ message then errorLine? message else placeLine? rest := by
  rw [errorLine?_eq, errorLine?_eq]
  split
  · rename_i opens
    cases split : Text.splitOnce (· == '(') message with
    | none => exact absurd (Text.splitOnce_eq_none_iff.mp split _ opens) (by decide)
    | some parts =>
        rw [Text.splitOnce_append split]
        have place := placeLine?_append_open (parts.2 ++ [' ']) rest
        rw [List.append_assoc, placeLine?_concat_blank] at place
        exact place
  · rename_i closed
    have absent : ∀ c ∈ message ++ [' '], (c == '(') = false := by
      intro c member
      rcases List.mem_append.mp member with inMessage | isBlank
      · exact beq_false_of_ne (ne_of_mem_of_not_mem inMessage closed)
      · rw [List.mem_singleton.mp isBlank]
        decide
    have atOpen := Text.splitOnce_append_cons (c := '(') (by decide) absent rest
    rw [List.append_assoc] at atOpen
    exact congrArg (·.bind (placeLine? ·.2)) atOpen

/-- A place that is written out has its line. -/
theorem placeLine?_eq_some {line column : List Char} {lineValue columnValue : Nat}
    (isLine : IsNumeral line lineValue) (isColumn : IsNumeral column columnValue)
    (tail : List Char) : placeLine? (line ++ ':' :: (column ++ ')' :: tail)) = some lineValue := by
  have atColon := Text.splitOnce_append_cons (p := (· == ':')) (c := ':') (by decide)
    (isLine.forall_ne (by decide)) (column ++ ')' :: tail)
  have atClose := Text.splitOnce_append_cons (p := (· == ')')) (c := ')') (by decide)
    (isColumn.forall_ne (by decide)) tail
  simp [placeLine?, atColon, atClose, isLine.number?_eq, isColumn.number?_eq]

/-- A complaint: a message, the place of the fault, and whatever comes after it. -/
def complaint (message line column tail : String) : String :=
  message ++ " (" ++ line ++ ":" ++ column ++ ")" ++ tail

/-- The line of a complaint is that of its place if the message opens no parenthesis, and else the
one that the message shows on its own. -/
theorem errorLine?_complaint {message line column tail : String} {lineValue columnValue : Nat}
    (isLine : IsNumeral line.toList lineValue) (isColumn : IsNumeral column.toList columnValue) :
    errorLine? (complaint message line column tail).toList =
      if '(' ∈ message.toList then errorLine? message.toList else some lineValue := by
  have isText : (complaint message line column tail).toList = message.toList ++
      ' ' :: '(' :: (line.toList ++ ':' :: (column.toList ++ ')' :: tail.toList)) := by
    simp [complaint]
  rw [isText, errorLine?_append_open, placeLine?_eq_some isLine isColumn]

end Prettier

/-! ## Units with a fault -/

namespace Compile

/-- The modules that a compilation has formatted. -/
inductive Formats (config : CompileConfig) : Module → Prop
  | types (declared : List DeclaredSchema) : Formats config (typesModule config declared)
  | requests (strategy : RequestStrategy) (declared : List DeclaredSchema)
      (functions : List RequestFunction) :
      Formats config (requestsModule config strategy declared functions)

variable {config : CompileConfig} {module : Module}

theorem Formats.inOrder (formats : Formats config module) : module.InOrder := by
  cases formats with
  | types declared => exact .declarations _ _ _
  | requests strategy declared functions => exact .requests _ _ _ _ _ _

/-- A module that an external formatter complains about is refused, with the text of the module. The
complaint has the line of its place exactly if its message opens no parenthesis or happens to show
the same line; what it names is the unit that covers its line, if it has one that a unit covers, and
the whole module otherwise. -/
theorem formatModule_locates (formats : Formats config module) {prettier : Prettier}
    {runProgram : String → List String → String → ProcessOutcome} {outcome : ProcessOutcome}
    (ran : runProgram prettier.program (prettier.arguments config.language config.style)
      module.text = outcome) (refuses : outcome.exitCode ≠ 0)
    {message line column tail : String} {lineValue columnValue : Nat}
    (complains : outcome.errors = Prettier.complaint message line column tail)
    (isLine : Prettier.IsNumeral line.toList lineValue)
    (isColumn : Prettier.IsNumeral column.toList columnValue) :
    ∃ unit diagnostic,
      formatModule (prettier.formatter runProgram) config module =
        .error (.formatterFailure module.name unit diagnostic module.text) ∧
      (diagnostic.line? = some lineValue ↔
        '(' ∉ message.toList ∨ Prettier.errorLine? message.toList = some lineValue) ∧
      (∀ shown, diagnostic.line? = some shown →
        ∀ span ∈ module.units, span.Covers shown → unit = span.name) ∧
      ((∀ shown, diagnostic.line? = some shown → ∀ span ∈ module.units, ¬ span.Covers shown) →
        unit = wholeModule) := by
  let diagnostic : FormatDiagnostic :=
    { message := Text.trim ((Text.lines outcome.errors).head?.getD "prettier failed")
      line? := Prettier.errorLine? outcome.errors.toList }
  have interpreted : prettier.formatter runProgram module.text config.language config.style =
      .error diagnostic := by
    rw [Prettier.formatter, ran, Prettier.interpret, if_neg refuses]
  refine ⟨(diagnostic.line?.bind module.unitAt?).getD wholeModule, diagnostic, ?_, ?_, ?_, ?_⟩
  · rw [formatModule, interpreted]
  · have lineOf : diagnostic.line? =
        if '(' ∈ message.toList then Prettier.errorLine? message.toList else some lineValue := by
      rw [← Prettier.errorLine?_complaint isLine isColumn, ← complains]
    rw [lineOf]
    by_cases opens : '(' ∈ message.toList <;> simp [opens]
  · intro shown isShown span isUnit covers
    rw [isShown, Option.bind_some, formats.inOrder.unitAt?_eq_some isUnit covers, Option.getD_some]
  · intro uncovered
    cases isShown : diagnostic.line? with
    | none => rfl
    | some shown =>
        rw [Option.bind_some, Module.unitAt?_eq_none_iff.mpr (uncovered shown isShown),
          Option.getD_none]

/-! ## A sign that is missing -/

/-- The declaration of a text. -/
def noteModule : Module :=
  typesModule {} [⟨"Note", ⟨"Note", .mk (.primitive "string") none none⟩⟩]

/-- A program that misses a sign in the fourth line of every text. -/
def misses (sign : String) : String → List String → String → ProcessOutcome :=
  fun _ _ _ =>
    { exitCode := 2
      output := ""
      errors := Prettier.complaint ("[error] stdin: SyntaxError: '" ++ sign ++ "' expected.")
        (toString 4) (toString 15) "\n" }

theorem units_noteModule : noteModule.units = [⟨"Note", 4, 4⟩] := by decide +kernel

theorem formatModule_locates_semicolon :
    ∃ diagnostic,
      formatModule (Prettier.formatter ⟨"prettier", []⟩ (misses ";")) {} noteModule =
        .error (.formatterFailure "interface.ts" "Note" diagnostic noteModule.text) ∧
      diagnostic.line? = some 4 := by
  have isLine : Prettier.IsNumeral (toString 4).toList 4 :=
    Prettier.isNumeral_toString (by decide)
  have isColumn : Prettier.IsNumeral (toString 15).toList 15 :=
    Prettier.isNumeral_toString (by decide)
  obtain ⟨unit, diagnostic, failed, located, covered, -⟩ :=
    @formatModule_locates {} noteModule (.types _) ⟨"prettier", []⟩ (misses ";") _ rfl
      (by decide : (2 : Int) ≠ 0) _ _ _ _ _ _ rfl isLine isColumn
  have isShown : diagnostic.line? = some 4 := located.mpr (Or.inl (by decide))
  have isUnit : (⟨"Note", 4, 4⟩ : UnitSpan) ∈ noteModule.units :=
    units_noteModule ▸ List.mem_cons_self
  obtain rfl : unit = "Note" := covered 4 isShown ⟨"Note", 4, 4⟩ isUnit ⟨le_rfl, le_rfl⟩
  exact ⟨diagnostic, failed, isShown⟩

/-- The parenthesis that is missing hides the place, and one that closes shows a place of its own. -/
theorem formatModule_loses_place :
    (∃ diagnostic,
      formatModule (Prettier.formatter ⟨"prettier", []⟩ (misses "(")) {} noteModule =
        .error (.formatterFailure "interface.ts" "<module>" diagnostic noteModule.text) ∧
      diagnostic.line? = none) ∧
    noteModule.unitAt? 4 = some "Note" ∧
    Prettier.errorLine? (Prettier.complaint "see (1:2)" "4" "15" "\n").toList = some 1 := by
  refine ⟨⟨_, rfl, ?_⟩, ?_, ?_⟩
  · decide +kernel
  · rw [Module.unitAt?, units_noteModule]
    rfl
  · decide +kernel

end Compile

end TypedClient

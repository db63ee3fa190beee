/-
# What a run writes besides its settings

A run writes modules and mock data. None of these texts is a settings document: modules begin
with a comment of the generated language, which the built-in layout leaves in the first line,
and mock data is JSON.
-/

import TypedClient.Command.Plan
import TypedClient.Proofs.Compile.Stages
import TypedClient.Proofs.Layout.Step
import TypedClient.Proofs.Module.Lines
import TypedClient.Proofs.Text.Lines
import TypedClient.Proofs.Toml.Refusal

namespace TypedClient

/-! ## The first line of a layout -/

namespace Layout

variable {tabWidth : Nat} {state after : State} {number : Nat} {line first : List Char}

/-- A line adds at most one printed line. -/
theorem printed_of_step (stepped : step tabWidth state number line = .ok after) :
    after.printed = state.printed ∨ ∃ added, after.printed = added :: state.printed := by
  cases inside : state.scanner.inTemplate with
  | true =>
      rw [step_of_inTemplate inside] at stepped
      obtain ⟨scanner, -, rfl⟩ := templateLine_eq_ok_iff.mp stepped
      exact .inr ⟨line, rfl⟩
  | false =>
      rw [step_of_not_inTemplate inside] at stepped
      split at stepped
      · cases stepped
        unfold blankLine
        split
        · exact .inr ⟨[], rfl⟩
        · exact .inl rfl
      · obtain ⟨-, scanner, -, rfl⟩ := codeLine_eq_ok_iff.mp stepped
        exact .inr ⟨_, rfl⟩

/-- The first printed line stays the first. -/
theorem getLast?_printed_of_run {lines : List (List Char)}
    (printed : state.printed.getLast? = some first)
    (ran : run tabWidth number state lines = .ok after) : after.printed.getLast? = some first := by
  refine run_preserves (fun state => state.printed.getLast? = some first) ?_ printed ran
  intro line _ state number after isFirst stepped
  rcases printed_of_step stepped with same | ⟨added, isAdded⟩
  · rwa [same]
  · rw [isAdded, List.getLast?_cons, isFirst]
    rfl

/-- The line every module begins with is printed as it is. -/
theorem printed_firstLine
    (stepped : step tabWidth {} 1 "/* eslint-disable */".toList = .ok after) :
    after.printed = ["/* eslint-disable */".toList] := by
  rw [step_of_not_inTemplate rfl, if_neg (by decide)] at stepped
  obtain ⟨-, scanner, -, rfl⟩ := codeLine_eq_ok_iff.mp stepped
  have level : levelOf {} "/* eslint-disable */".toList = 0 := by decide
  have trimmed : Text.trimList "/* eslint-disable */".toList = "/* eslint-disable */".toList := by
    decide
  simp only [afterCode, trimmed, level, padding, Nat.zero_mul, List.replicate_zero]
  rfl

/-- The text of printed lines begins with the first that is not empty. -/
theorem head?_printedText {printed : List (List Char)} {c : Char}
    (isFirst : printed.getLast? = some (c :: line)) : (printedText printed).head? = some c := by
  obtain ⟨front, rfl⟩ := List.getLast?_eq_some_iff.mp isFirst
  obtain ⟨kept, isKept⟩ : ∃ kept, (front ++ [c :: line]).dropWhile List.isEmpty =
      kept ++ [c :: line] := by
    induction front with
    | nil => exact ⟨[], rfl⟩
    | cons other front ih =>
        cases other with
        | nil => exact ih (by simp)
        | cons d other => exact ⟨(d :: other) :: front, rfl⟩
  rw [printedText, isKept, List.reverse_append]
  cases kept.reverse <;> simp

/-- A layout leaves the line every module begins with. -/
theorem head?_formatList {text formatted : List Char}
    (begins : "/* eslint-disable */\n".toList <+: text)
    (done : formatList tabWidth text = .ok formatted) : formatted.head? = some '/' := by
  obtain ⟨rest, rfl⟩ := begins
  obtain ⟨last, ran, -, rfl⟩ := formatList_eq_ok_iff.mp done
  have lines : Text.lineLists ("/* eslint-disable */\n".toList ++ rest) =
      "/* eslint-disable */".toList :: Text.linesFrom [] rest :=
    Text.linesFrom_append_newline (show '\n' ∉ "/* eslint-disable */".toList by decide) [] rest
  rw [lines] at ran
  obtain ⟨next, stepped, ran⟩ := run_cons_eq_ok_iff.mp ran
  exact head?_printedText (getLast?_printed_of_run (by rw [printed_firstLine stepped]; rfl) ran)

end Layout

/-! ## Modules and mock data -/

namespace Module

/-- A module begins with the comment that turns off its checks. -/
def BeginsPlainly (module : Module) : Prop :=
  "/* eslint-disable */\n".toList <+: module.text.toList

theorem beginsPlainly_start (name : String) (kind : ModuleKind) :
    ((start name kind).addRaw preamble).BeginsPlainly := by
  have text : ((start name kind).addRaw preamble).text.toList = preamble.toList := by
    unfold addRaw
    rw [if_neg (by decide), String.toList_ofList]
    rfl
  rw [BeginsPlainly, text]
  exact ⟨"// generated by swaggen\n".toList, by decide⟩

theorem beginsPlainly_declarations (name : String) (definitions : List Definition)
    (language : Language) : (declarations name definitions language).BeginsPlainly := by
  have units := (beginsPlainly_start name .declarations).trans (isPrefix_foldl_addUnit definitions
    (·.name) (·.emit language) _)
  unfold declarations
  dsimp only
  split
  · exact units.trans (isPrefix_addRaw _ _)
  · exact units

theorem beginsPlainly_requests (name : String) (functions : List RequestFunction)
    (language : Language) (header path : String) (aliases : Naming.Aliases) :
    (requests name functions language header path aliases).BeginsPlainly :=
  (((beginsPlainly_start name .requests).trans (isPrefix_addRaw _ _)).trans
    (isPrefix_addRaw _ _)).trans (isPrefix_foldl_addUnit functions (·.name) (·.text) _)

end Module

/-- Formatted modules are no settings documents. -/
def Formatter.WritesCode (formatter : Formatter) : Prop :=
  ∀ (module : Module) (language : Language) (style : FormatStyle) (formatted : String),
    module.BeginsPlainly → formatter module.text language style = .ok formatted →
    Toml.Document.parse? formatted = none

theorem Formatter.writesCode_layout : Formatter.layout.WritesCode := by
  intro module language style formatted begins done
  unfold layout at done
  split at done
  · rename_i text laidOut
    cases done
    have starts := Layout.head?_formatList begins laidOut
    obtain ⟨rest, rfl⟩ : ∃ rest, text = '/' :: rest := by
      cases text with
      | nil => cases starts
      | cons c rest => exact ⟨rest, by rw [Option.some.inj starts]⟩
    exact Toml.parse?_eq_none_of_head String.toList_ofList (by decide) (by decide) (by decide)
      (by decide) (by decide) ⟨rfl, rfl, by decide, by decide⟩
  · cases done

namespace Compile

variable {document : Document} {config : CompileConfig} {formatter : Formatter}
  {registry : StrategyRegistry} {output : CompileOutput}

theorem text_of_formatModule {module formatted : Module}
    (done : formatModule formatter config module = .ok formatted) :
    formatter module.text config.language config.style = .ok formatted.text := by
  unfold formatModule at done
  split at done
  · rename_i text isFormatted
    cases done
    exact isFormatted
  · cases done

/-- No module of an output is a settings document. -/
theorem parse?_files (writesCode : formatter.WritesCode)
    (done : document.compile config formatter registry = .ok output) :
    ∀ file ∈ output.files, Toml.Document.parse? file.2 = none := by
  obtain ⟨declared, succeeds⟩ := exists_succeeds done
  have types : Toml.Document.parse? output.types.text = none :=
    writesCode _ _ _ _ (Module.beginsPlainly_declarations ..) (text_of_formatModule succeeds.types)
  intro file isFile
  obtain ⟨module, isModule, rfl⟩ := List.mem_map.mp isFile
  rcases List.mem_cons.mp isModule with rfl | isRequests
  · exact types
  · obtain ⟨strategy, -, compiled⟩ :=
      eq_ok_of_bind (succeeds.requests module (Option.mem_toList.mp isRequests))
    obtain ⟨_, -, formatted⟩ := eq_ok_of_bind compiled
    exact writesCode _ _ _ _ (Module.beginsPlainly_requests ..) (text_of_formatModule formatted)

end Compile

/-- No file of mock data is a settings document. -/
theorem MockArtifact.parse?_files (mocks : MockArtifact) (wrap : Bool) :
    ∀ file ∈ mocks.files wrap, Toml.Document.parse? file.2 = none := by
  intro file isFile
  unfold files at isFile
  rcases List.mem_append.mp isFile with isEntry | isRoutes
  · obtain ⟨entry, -, rfl⟩ := List.mem_map.mp isEntry
    exact Toml.parse?_pretty _
  · rw [List.mem_singleton.mp isRoutes]
    exact Toml.parse?_pretty _

end TypedClient

/-
# Import specifiers

A request module names the place of its declarations in every import, between double quotes. Other
texts are written with escapes there; this one is put in as it is. So it is read back only if it
needs no escapes, in both languages and however many imports there are.
-/

import TypedClient.Proofs.Module.Lines
import TypedClient.Proofs.Module.Spans
import TypedClient.Proofs.Script.Verbatim
import TypedClient.Proofs.Types.Imports

namespace TypedClient

/-! ## Lines that import -/

/-- What a line that imports has around its specifier. -/
structure ImportFrame where
  opening : String
  closing : String
  deriving DecidableEq, Repr

/-- The line that imports from a place. -/
def ImportFrame.line (frame : ImportFrame) (path : String) : List Char :=
  frame.opening.toList ++ '"' :: (path.toList ++ '"' :: frame.closing.toList)

/-- A line ends like its frame. -/
theorem ImportFrame.getLast?_line (frame : ImportFrame) (path : String) :
    (frame.line path).getLast? = frame.closing.toList.getLast?.or (some '"') := by
  have parts : frame.line path =
      frame.opening.toList ++ '"' :: path.toList ++ ['"'] ++ frame.closing.toList := by
    simp [line]
  rw [parts, List.getLast?_append, List.getLast?_concat]

namespace RequestFunction

/-- The frames of the lines that import definitions: one for all of them in a typed module, and one
for each in a plain module. -/
def importFrames (imports : NameSet) (aliases : Naming.Aliases) : Language → List ImportFrame
  | .typeScript =>
    [{ opening :=
        "import type \x7b " ++ ", ".intercalate (imports.toList.map (importEntry aliases)) ++
          " \x7d from "
       closing := ";" }]
  | .javaScript =>
    imports.toList.map fun name =>
      { opening := "/** @typedef \x7bimport("
        closing := ")." ++ name ++ "\x7d " ++ (aliases.lookup name).getD name ++ " */" }

variable {imports : NameSet} {aliases : Naming.Aliases} {language : Language} {path : String}

theorem importFrames_ne_nil (nonempty : imports.isEmpty = false) :
    importFrames imports aliases language ≠ [] := by
  cases language with
  | typeScript => exact List.cons_ne_nil _ _
  | javaScript => simpa [importFrames, NameSet.isEmpty] using nonempty

/-- A line that imports ends in a sign that is seen. -/
theorem exists_getLast?_line {frame : ImportFrame}
    (isFrame : frame ∈ importFrames imports aliases language) :
    ∃ c, (frame.line path).getLast? = some c ∧ Text.isWhiteSpace c = false := by
  rw [ImportFrame.getLast?_line]
  cases language with
  | typeScript =>
      obtain rfl := List.mem_singleton.mp isFrame
      exact ⟨';', by simp, by decide⟩
  | javaScript =>
      obtain ⟨name, -, rfl⟩ := List.mem_map.mp isFrame
      refine ⟨'/', ?_, by decide⟩
      rw [String.toList_append, List.getLast?_append]
      rfl

theorem toList_importComment (path name : String) (aliases : Naming.Aliases) :
    (importComment path aliases name).toList =
      (ImportFrame.mk "/** @typedef \x7bimport("
        (")." ++ name ++ "\x7d " ++ (aliases.lookup name).getD name ++ " */")).line path := by
  unfold importComment ImportFrame.line
  simp

/-- A block of imports consists of the lines that import. -/
theorem toList_importBlock (nonempty : imports.isEmpty = false) :
    (importBlock imports language path aliases).toList =
      List.intercalate ['\n'] ((importFrames imports aliases language).map (·.line path)) := by
  rw [importBlock.eq_def, nonempty, if_neg Bool.false_ne_true]
  cases language with
  | typeScript =>
      have opens : " \x7d from \"".toList = " \x7d from ".toList ++ ['"'] := by decide
      have closes : "\";".toList = '"' :: ";".toList := by decide
      simp only [importFrames, List.map_singleton, List.intercalate_singleton, ImportFrame.line,
        String.toList_append, List.append_assoc, opens, closes, List.cons_append,
        List.nil_append]
  | javaScript =>
      have lines : (imports.toList.map (importComment path aliases)).map String.toList =
          (importFrames imports aliases .javaScript).map (·.line path) := by
        rw [importFrames, List.map_map, List.map_map]
        exact List.map_congr_left fun name _ => toList_importComment path name aliases
      rw [String.toList_intercalate, lines]
      rfl

/-- A block of imports ends like its last line. -/
theorem exists_getLast?_importBlock (nonempty : imports.isEmpty = false) :
    ∃ c, (importBlock imports language path aliases).toList.getLast? = some c ∧
      Text.isWhiteSpace c = false := by
  obtain ⟨front, last, isConcat⟩ := (List.eq_nil_or_concat
    (importFrames imports aliases language)).resolve_left (importFrames_ne_nil nonempty)
  rw [List.concat_eq_append] at isConcat
  have isFrame : last ∈ importFrames imports aliases language :=
    isConcat ▸ List.mem_append_right front (List.mem_singleton_self last)
  obtain ⟨c, isLast, visible⟩ : ∃ c, (last.line path).getLast? = some c ∧
    Text.isWhiteSpace c = false := exists_getLast?_line isFrame
  refine ⟨c, ?_, visible⟩
  have lines : (front ++ [last]).map (·.line path) ≠ [] := by simp
  have closed := Text.intercalate_append_newline lines
  rw [List.map_append, Text.joinLines_append, List.map_singleton, Text.joinLines_cons,
    Text.joinLines_nil, ← List.append_assoc] at closed
  rw [toList_importBlock nonempty, isConcat, List.map_append, List.map_singleton,
    List.append_cancel_right closed, List.getLast?_append, isLast]
  rfl

end RequestFunction

namespace Module

/-- A block that ends in a sign is closed by a line feed. -/
theorem closeBlock_of_getLast? {block : List Char} {c : Char} (isLast : block.getLast? = some c)
    (notFeed : c ≠ '\n') : closeBlock block = block ++ ['\n'] := by
  have uncut : Text.dropEndWhile (· == '\n') block = block := by
    refine List.rdropWhile_eq_self_iff.mpr fun nonempty => ?_
    rw [List.getLast?_eq_some_getLast nonempty, Option.some.injEq] at isLast
    simpa [isLast] using notFeed
  rw [closeBlock, uncut]

/-- A request module with imports has the lines that import, put together. -/
theorem exists_text_requests (name : String) (functions : List RequestFunction)
    (language : Language) (header path : String) (aliases : Naming.Aliases)
    (imported : (RequestFunction.allImports functions).isEmpty = false) :
    ∃ before after, (∀ c ∈ before.getLast?, c = '\n') ∧
      (requests name functions language header path aliases).text.toList =
        before ++ Text.joinLines ((RequestFunction.importFrames
          (RequestFunction.allImports functions) aliases language).map (·.line path)) ++ after := by
  let front := ((start name .requests).addRaw preamble).addRaw header
  let block := RequestFunction.importBlock (RequestFunction.allImports functions) language path
    aliases
  obtain ⟨c, isLast, visible⟩ : ∃ c, block.toList.getLast? = some c ∧
    Text.isWhiteSpace c = false := RequestFunction.exists_getLast?_importBlock imported
  have notBlank : ¬ Text.isBlank block = true := fun blank =>
    Bool.false_ne_true (visible.symm.trans
      (List.all_eq_true.mp blank c (List.mem_of_getLast? isLast)))
  have notFeed : c ≠ '\n' := by
    rintro rfl
    exact absurd visible (by decide)
  have isBlock : closeBlock block.toList = Text.joinLines ((RequestFunction.importFrames
      (RequestFunction.allImports functions) aliases language).map (·.line path)) := by
    rw [closeBlock_of_getLast? isLast notFeed, RequestFunction.toList_importBlock imported]
    exact Text.intercalate_append_newline
      (by simpa using RequestFunction.importFrames_ne_nil imported)
  obtain ⟨after, isText⟩ := isPrefix_foldl_addUnit functions (·.name) (·.text)
    (front.addRaw block)
  refine ⟨front.text.toList ++ separator front.text.toList, after, isLineStart_separator _, ?_⟩
  rw [requests, ← isText, Module.addRaw, if_neg notBlank, String.toList_ofList, appendBlock,
    isBlock]

open Script (IsVerbatim readString)

/-- The specifiers of a request module are put in without escapes. So each of them, in either
language, is read as the path that it was written for if the path has no quote, no backslash and no
line terminator, and none of them is if the path has a quote, a backslash, a line feed or a carriage
return. -/
theorem requests_specifier_reads (name : String) {functions : List RequestFunction}
    {function : RequestFunction} {definition : String} (isFunction : function ∈ functions)
    (isImported : definition ∈ function.imports) (language : Language) (header path : String)
    (aliases : Naming.Aliases) :
    let imports := RequestFunction.allImports functions
    RequestFunction.importFrames imports aliases language ≠ [] ∧
      ∀ frame ∈ RequestFunction.importFrames imports aliases language, ∃ before after,
        (requests name functions language header path aliases).text.toList =
          before ++ frame.opening.toList ++ '"' :: (path.toList ++ '"' :: after) ∧
        (∀ c ∈ before.getLast?, c = '\n') ∧ frame.closing.toList ++ ['\n'] <+: after ∧
        (IsVerbatim path.toList →
          readString ('"' :: (path.toList ++ '"' :: after)) = some (path.toList, after)) ∧
        ((∃ c ∈ path.toList, c ∈ ['"', '\\', '\n', '\r']) → ∀ rest,
          readString ('"' :: (path.toList ++ '"' :: after)) ≠ some (path.toList, rest)) := by
  have isImport : definition ∈ RequestFunction.allImports functions :=
    NameSet.mem_foldl_union.mpr (Or.inr ⟨function, isFunction, isImported⟩)
  have imported : (RequestFunction.allImports functions).isEmpty = false :=
    List.isEmpty_eq_false_iff.mpr (List.ne_nil_of_mem isImport)
  refine ⟨RequestFunction.importFrames_ne_nil imported, fun frame isFrame => ?_⟩
  obtain ⟨before, after, isLineStart, isText⟩ :=
    exists_text_requests name functions language header path aliases imported
  obtain ⟨first, others, isSplit⟩ := List.append_of_mem isFrame
  let above := Text.joinLines (first.map (·.line path))
  let below := Text.joinLines (others.map (·.line path)) ++ after
  refine ⟨before ++ above, frame.closing.toList ++ '\n' :: below, ?_, ?_, ⟨below, by simp⟩,
    fun verbatim => Script.readString_of_isVerbatim verbatim, ?_⟩
  · rw [isText, isSplit, List.map_append, List.map_cons, Text.joinLines_append,
      Text.joinLines_cons]
    simp only [above, below, ImportFrame.line, List.append_assoc, List.cons_append]
  · intro c isLast
    rw [List.getLast?_append, Option.mem_def, Option.or_eq_some_iff] at isLast
    rcases isLast with inAbove | ⟨-, inBefore⟩
    · exact Text.eq_newline_of_getLast?_joinLines inAbove
    · exact isLineStart c inBefore
  · rintro ⟨c, inPath, needsEscape⟩ rest read
    obtain ⟨notQuote, notBackslash, inLine⟩ :=
      Script.readString_eq_self_iff.mp ⟨rest, read⟩ c inPath
    simp only [List.mem_cons, List.not_mem_nil, or_false, notQuote, notBackslash, false_or]
      at needsEscape
    rcases needsEscape with rfl | rfl <;> exact absurd inLine (by decide)

/-! ## A path that is a tab -/

/-- A function with one import. -/
def listPets : RequestFunction :=
  { name := "listPets"
    location := "GET /pets"
    text := "export const listPets = 1;"
    imports := .ofList ["Pet"] }

/-- The frame of its import. -/
def petFrame : ImportFrame :=
  { opening := "import type \x7b Pet \x7d from ", closing := ";" }

theorem requests_specifier_reads_pet :
    listPets ∈ [listPets] ∧ "Pet" ∈ listPets.imports ∧
    (∃ before after,
      (requests "api.ts" [listPets] .typeScript "" "./interface" []).text.toList =
        before ++ petFrame.opening.toList ++ '"' :: ("./interface".toList ++ '"' :: after) ∧
      readString ('"' :: ("./interface".toList ++ '"' :: after)) =
        some ("./interface".toList, after)) ∧
    ∃ before after,
      (requests "api.ts" [listPets] .typeScript "" "..\\types" []).text.toList =
        before ++ petFrame.opening.toList ++ '"' :: ("..\\types".toList ++ '"' :: after) ∧
      ∀ rest, readString ('"' :: ("..\\types".toList ++ '"' :: after)) ≠
        some ("..\\types".toList, rest) := by
  have isFunction : listPets ∈ [listPets] := List.mem_singleton_self listPets
  have isImported : "Pet" ∈ listPets.imports := by decide
  have isFrame : petFrame ∈ RequestFunction.importFrames (RequestFunction.allImports [listPets]) []
    .typeScript := by decide
  have plain : IsVerbatim "./interface".toList := by decide
  obtain ⟨before, after, isText, -, -, reads, -⟩ :=
    (requests_specifier_reads "api.ts" isFunction isImported .typeScript "" "./interface" []).2
      petFrame isFrame
  obtain ⟨beforeToo, afterToo, isTextToo, -, -, -, misreads⟩ :=
    (requests_specifier_reads "api.ts" isFunction isImported .typeScript "" "..\\types" []).2
      petFrame isFrame
  exact ⟨isFunction, isImported, ⟨before, after, isText, reads plain⟩,
    ⟨beforeToo, afterToo, isTextToo, misreads ⟨'\\', by decide, by decide⟩⟩⟩

/-- A backslash and a letter are read as a tab. -/
theorem requests_specifier_tab :
    (requests "api.ts" [listPets] .typeScript "" "..\\types" []).text =
      preamble ++ "\n" ++ petFrame.opening ++ "\"..\\types\";\n\nexport const listPets = 1;\n" ∧
    readString "\"..\\types\";\n\nexport const listPets = 1;\n".toList =
      some ("..\types".toList, ";\n\nexport const listPets = 1;\n".toList) := by
  constructor <;> decide +kernel

end Module

end TypedClient

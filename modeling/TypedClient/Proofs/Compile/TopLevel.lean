/-
# Top-level names of request modules

A request module binds the names that its header imports, the local names of its definitions and the
names of its functions, and its bodies rely on globals. Local names are chosen away from each other,
from what headers import and from the globals. Function names are made from operations alone: they
are distinct, but one may be a name that the module has another use for. A naming policy leaves only
some of these names open, and an operation can be called like any global that is left open.
-/

import TypedClient.Proofs.Compile.ClosedWorld
import TypedClient.Proofs.Compile.Collisions
import TypedClient.Proofs.Naming.Initial
import TypedClient.Proofs.Request.Function

namespace TypedClient

/-! ## Names with another use -/

/-- The names that an import statement binds: its words before `from`. -/
def importBindings (statement : String) : List String :=
  let words := Text.splitOn (fun c => !Naming.isIdentifierPart c) statement.toList
  (((words.filter (!·.isEmpty)).map String.ofList).drop 1).takeWhile (· ≠ "from")

/-- The globals that the bodies of request functions refer to. -/
def bodyGlobals : List String :=
  ["axios", "fetch", "FormData", "URLSearchParams", "Object", "String", "JSON", "Error"]

namespace RequestStrategy

variable {strategy : RequestStrategy} {name : String}

/-- The names that stand for something else than a definition or a function. -/
def outerNames (strategy : RequestStrategy) (language : Language) : List String :=
  importBindings (strategy.header language) ++ bodyGlobals

example : axios.outerNames .typeScript = ["axios", "AxiosResponse"] ++ bodyGlobals := by decide

theorem eq_axios_or_fetch (member : strategy ∈ StrategyRegistry.builtin.strategies) :
    strategy = axios ∨ strategy = fetch := by
  rw [StrategyRegistry.strategies_builtin] at member
  simpa using member

theorem mem_of_mem_outerNames (member : strategy ∈ StrategyRegistry.builtin.strategies)
    {language : Language} (isOuter : name ∈ strategy.outerNames language) :
    name ∈ "AxiosResponse" :: bodyGlobals := by
  revert name
  rcases eq_axios_or_fetch member with rfl | rfl <;> cases language <;> decide

/-- What built-in strategies import counts among the globals. -/
theorem mem_globalNames_of_mem_outerNames (member : strategy ∈ StrategyRegistry.builtin.strategies)
    {language : Language} (isOuter : name ∈ strategy.outerNames language) :
    name ∈ Naming.globalNames := by
  have areGlobals : ∀ name ∈ "AxiosResponse" :: bodyGlobals, name ∈ Naming.globalNames := by decide
  exact areGlobals name (mem_of_mem_outerNames member isOuter)

/-- An operation can be called like any of these names that the policy leaves open. -/
theorem exists_applyPolicy_eq_iff (member : strategy ∈ StrategyRegistry.builtin.strategies)
    {language : Language} (isOuter : name ∈ strategy.outerNames language)
    (policy : NamingPolicy) :
    (∃ raw, Naming.applyPolicy raw policy = name) ↔ policy.admits name = true := by
  constructor
  · rintro ⟨raw, rfl⟩
    exact Naming.admits_applyPolicy raw policy
  · -- Pascal case keeps no row of capitals, so two of the names are spelled letter by letter.
    have spelled : ∀ name ∈ "AxiosResponse" :: bodyGlobals, policy.admits name = true →
        ∃ raw ∈ [name, "U_R_L_Search_Params", "J_S_O_N"],
          Naming.applyPolicy raw policy = name := by
      cases policy <;> decide
    intro isOpen
    obtain ⟨raw, -, isMade⟩ := spelled name (mem_of_mem_outerNames member isOuter) isOpen
    exact ⟨raw, isMade⟩

example : bodyGlobals.filter NamingPolicy.camel.admits = ["axios", "fetch"] := by decide

/-- Built-in strategies name their functions as they are told. -/
theorem name_function (member : strategy ∈ StrategyRegistry.builtin.strategies)
    (context : RequestContext) : (strategy.function context).name = context.name := by
  rcases eq_axios_or_fetch member with rfl | rfl <;> rfl

end RequestStrategy

/-- A function starts by exporting its name. -/
theorem Code.Function.exists_emit_eq (function : Code.Function) :
    ∃ body, function.emit = "export const " ++ function.name ++ " = " ++ body := by
  have isHeader : function.header = "export const " ++ function.name ++ " = " ++
      ((if function.isAsync then "async " else "") ++ function.parameters ++
        (function.returnType?.map (": " ++ ·)).getD "" ++ " =>") := by
    unfold header
    simp only [String.append_assoc]
  unfold emit
  split
  all_goals
    rw [isHeader]
    simp only [String.append_assoc]
    exact ⟨_, rfl⟩

namespace Compile

variable {config : CompileConfig} {chosen : RequestStrategy} {declared : List DeclaredSchema}
  {operations : List Operation}

/-- Without replacements a function exports its name behind its comment. -/
theorem exists_text_eq (member : chosen ∈ StrategyRegistry.builtin.strategies)
    (unchanged : config.template.substitutions = []) {function : RequestFunction}
    (isFunction : function ∈ requestFunctions config chosen declared operations) :
    ∃ comment body,
      function.text = comment ++ "export const " ++ function.name ++ " = " ++ body := by
  obtain ⟨operation, -, rfl⟩ := List.mem_map.mp isFunction
  let context := operation.requestContext (requestResolver declared) config
  obtain ⟨body, isText⟩ := (chosen.function context).exists_emit_eq
  rw [RequestStrategy.name_function member] at isText
  refine ⟨operation.comment (requestResolver declared) config.language chosen, body, ?_⟩
  have isOwn : (operation.requestFunction (requestResolver declared) config chosen).text =
      operation.comment (requestResolver declared) config.language chosen ++
        (chosen.function context).emit := by
    rw [Operation.requestFunction, unchanged]
    rfl
  rw [isOwn, isText]
  simp only [String.append_assoc]
  rfl

/-- Local names of definitions are no globals. -/
theorem notMem_globalNames_of_mem_importedNames {name : String}
    (isImported : name ∈ importedNames declared
      (requestFunctions config chosen declared operations)) :
    name ∉ Naming.globalNames := by
  obtain ⟨target, isTarget, rfl⟩ := List.mem_map.mp isImported
  obtain ⟨function, isFunction, isImport⟩ := RequestFunction.mem_allImports.mp isTarget
  exact Naming.notMem_globalNames_of_lookup_importAliases
    (mem_declaredNames_of_function isFunction isImport)

/-- Only names that the policy leaves open can be taken by a function. -/
theorem disjoint_functionNames_iff {policy : NamingPolicy} {names : List String} :
    (operations.map (·.functionName policy)).Disjoint names ↔
      ∀ operation ∈ operations, operation.functionName policy ∉ names.filter policy.admits := by
  constructor
  · intro disjoint operation isOperation isTaken
    exact disjoint (List.mem_map_of_mem isOperation) (List.mem_of_mem_filter isTaken)
  · intro isFree name isFunction isTaken
    obtain ⟨operation, isOperation, rfl⟩ := List.mem_map.mp isFunction
    exact isFree operation isOperation
      (List.mem_filter.mpr ⟨isTaken, Naming.admits_applyPolicy _ policy⟩)

/-- What the names of a request module clash with, under a built-in strategy with its own header and
without replacements. The names of its functions are distinct, and so are the local names of its
definitions, which clash with no import of the header and no global of the bodies. A function
clashes with a local name, an import or a global only where the policy leaves the name open, so the
names are all apart if no selected operation bears such a name; and every import and global that is
left open is the name that some operation identifier leads to. -/
theorem compile_topLevel {document : Document} {formatter : Formatter} {output : CompileOutput}
    {requests : Module} (done : document.compile config formatter .builtin = .ok output)
    (isProduced : output.requests? = some requests) (ownHeader : config.template.header? = none)
    (unchanged : config.template.substitutions = []) :
    ∃ declared chosen functions imported outer,
      DeclaredSchema.normalize document.definitions = .ok declared ∧
      strategy config .builtin = .ok chosen ∧
      functions = requestFunctions config chosen declared (document.selected config.tags) ∧
      formatModule formatter config (.requests config.requestsFile functions config.language
        (chosen.header config.language) config.interfaceImportPath
        (Naming.importAliases (declaredNames declared))) = .ok requests ∧
      (∀ function ∈ functions, ∃ comment body,
        function.text = comment ++ "export const " ++ function.name ++ " = " ++ body) ∧
      requests.unitNames = functions.map (·.name) ∧
      imported = importedNames declared functions ∧
      outer = chosen.outerNames config.language ∧
      requests.unitNames.Nodup ∧ imported.Nodup ∧ imported.Disjoint outer ∧
      (requests.unitNames.Disjoint (imported ++ outer) ↔
        ∀ operation ∈ document.selected config.tags, operation.functionName config.naming ∉
          (imported ++ outer).filter config.naming.admits) ∧
      ∀ name ∈ outer,
        config.naming.admits name = true ↔ ∃ raw, Naming.applyPolicy raw config.naming = name := by
  obtain ⟨declared, succeeds⟩ := exists_succeeds done
  obtain ⟨areNames, distinct⟩ := succeeds.unitNames_requests isProduced
  obtain ⟨chosen, succeed⟩ := exists_requestsSucceed (succeeds.requests requests isProduced)
  have builtin : chosen ∈ StrategyRegistry.builtin.strategies := by
    have registered := succeed.registered
    unfold strategy at registered
    split at registered
    · cases registered
      exact List.mem_of_find?_eq_some ‹_›
    · cases registered
  refine ⟨declared, chosen, _, _, _, succeeds.normalized, succeed.registered, rfl, ?_,
    fun _ => exists_text_eq builtin unchanged, ?_, rfl, rfl, distinct, nodup_importedNames, ?_, ?_,
    ?_⟩
  · have formatted := succeed.formatted
    rwa [requestsModule, ownHeader] at formatted
  · rw [areNames, map_name_requestFunctions]
  · intro name isImported isOuter
    exact notMem_globalNames_of_mem_importedNames isImported
      (RequestStrategy.mem_globalNames_of_mem_outerNames builtin isOuter)
  · rw [areNames]
    exact disjoint_functionNames_iff
  · intro name isOuter
    exact (RequestStrategy.exists_applyPolicy_eq_iff builtin isOuter config.naming).symm

theorem compile_topLevel_faults :
    ∃ output requests, faultyDocument.compile {} verbatim .builtin = .ok output ∧
      output.requests? = some requests ∧
      requests.unitNames.Disjoint
        (["ApiError", "Pet"] ++ RequestStrategy.axios.outerNames .typeScript) := by
  have isOk : (faultyDocument.compile {} verbatim .builtin).isOk = true := by decide +kernel
  obtain ⟨output, done⟩ := exists_eq_ok_of_isOk isOk
  obtain ⟨_, succeeds⟩ := exists_succeeds done
  obtain ⟨requests, isProduced⟩ := succeeds.exists_requests rfl
  obtain ⟨declared, chosen, _, _, _, normalized, registered, rfl, -, -, -, rfl, rfl, -, -, -,
    isFree, -⟩ := compile_topLevel done isProduced rfl rfl
  have isDeclared : DeclaredSchema.normalize faultyDocument.definitions = .ok faultyDeclared := rfl
  cases isDeclared.symm.trans normalized
  have isAxios : strategy {} .builtin = .ok .axios := rfl
  cases isAxios.symm.trans registered
  have imported : importedNames faultyDeclared (requestFunctions {} .axios faultyDeclared
      (faultyDocument.selected [])) = ["ApiError", "Pet"] := by decide +kernel
  rw [← imported]
  refine ⟨output, requests, done, isProduced, isFree.mpr ?_⟩
  decide +kernel

/-! ## Functions named like an import -/

/-- A definition that is imported under an alias, and operations that are called like the alias and
like the library that the header imports. -/
def namesakeDocument : Document :=
  { definitions := [⟨"Error", .mk (.primitive "string") none none⟩]
    operations :=
      [{ path := "/faults", method := .get, operationId? := some "ApiError"
         response? := some (referTo "Error") },
        { path := "/library", method := .get, operationId? := some "axios" }] }

/-- The definition is declared under its own name. -/
def namesakeDeclared : List DeclaredSchema :=
  namesakeDocument.definitions.map fun source => ⟨source.name, source⟩

/-- The functions take names that the header and the import list bind, and one that is a global of
the bodies. -/
theorem not_disjoint_namesakes :
    ∃ output requests,
      namesakeDocument.compile { naming := .preserve } verbatim .builtin = .ok output ∧
      output.requests? = some requests ∧
      DeclaredSchema.normalize namesakeDocument.definitions = .ok namesakeDeclared ∧
      requests.unitNames = ["ApiError", "axios"] ∧
      importedNames namesakeDeclared (requestFunctions { naming := .preserve } .axios
        namesakeDeclared namesakeDocument.operations) = ["ApiError"] ∧
      importBindings (RequestStrategy.axios.header .typeScript) = ["axios", "AxiosResponse"] ∧
      "axios" ∈ bodyGlobals := by
  have isOk : (namesakeDocument.compile { naming := .preserve } verbatim .builtin).isOk = true := by
    decide +kernel
  obtain ⟨output, done⟩ := exists_eq_ok_of_isOk isOk
  obtain ⟨_, succeeds⟩ := exists_succeeds done
  obtain ⟨requests, isProduced⟩ := succeeds.exists_requests rfl
  have areNames := (succeeds.unitNames_requests isProduced).1
  refine ⟨output, requests, done, isProduced, rfl, areNames.trans ?_, ?_, ?_, ?_⟩
  all_goals decide +kernel

end Compile

end TypedClient

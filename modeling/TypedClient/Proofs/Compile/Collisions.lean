/-
# Collisions of names

Definitions are declared one after the other, and functions are checked likewise; as soon as a name
is taken, the compilation ends with that repeat. So it fails exactly if names repeat, it reports the
earliest repeat, and where it succeeds nothing is lost: the units of a module are all there, in
order and under distinct names.
-/

import TypedClient.Proofs.Compile.Declared
import TypedClient.Proofs.Compile.Stages

namespace TypedClient

open Naming (DistinctOutcome FirstRepeat HasRepeat)

/-! ## Functions -/

namespace Compile

/-- The error that reports two functions of one name. -/
def duplicate (name : String) (first second : RequestFunction) : CompileError :=
  .duplicateOperation name first.location second.location

/-- After functions of distinct names, the others pass if their names are new. -/
theorem outcome_checkDistinct (before rest : List RequestFunction)
    (distinct : (before.filterMap fun f => some f.name).Nodup) :
    DistinctOutcome (fun f : RequestFunction => some f.name) (before ++ rest) duplicate ()
      (checkDistinct before rest) := by
  induction rest generalizing before with
  | nil =>
      rw [List.append_nil, checkDistinct]
      exact .distinct distinct
  | cons function rest ih =>
      have next := ih (before ++ [function])
      rw [List.append_assoc, List.singleton_append] at next
      rw [checkDistinct]
      split
      · rename_i taken found
        have named := List.find?_some found
        exact .repeated (FirstRepeat.of_mem distinct (List.mem_of_find?_eq_some found)
          (congrArg some (beq_iff_eq.mp named)) rfl)
      · rename_i free
        refine next (Naming.nodup_filterMap_concat distinct ?_)
        intro name hasName other inBefore same
        cases hasName
        exact List.find?_eq_none.mp free other inBefore (beq_iff_eq.mpr (Option.some.inj same))

end Compile

namespace Operation

/-- The name of an operation's function; there always is one. -/
def functionName? (policy : NamingPolicy) (operation : Operation) : Option String :=
  some (operation.functionName policy)

/-- The error that reports two operations whose functions have one name. -/
def duplicate (name : String) (first second : Operation) : CompileError :=
  .duplicateOperation name first.location second.location

end Operation

namespace Compile

variable {document : Document} {config : CompileConfig} {formatter : Formatter}
  {registry : StrategyRegistry}

/-- The functions of operations pass if their names are distinct; else the first operations of one
function name are reported. -/
theorem outcome_requestFunctions (config : CompileConfig) (chosen : RequestStrategy)
    (declared : List DeclaredSchema) (operations : List Operation) :
    DistinctOutcome (Operation.functionName? config.naming) operations Operation.duplicate ()
      (checkDistinct [] (requestFunctions config chosen declared operations)) := by
  have whole := outcome_checkDistinct []
    (requestFunctions config chosen declared operations) List.nodup_nil
  rw [List.nil_append, requestFunctions] at whole
  exact whole.of_map

/-! ## Failures -/

/-- Only definitions collide. -/
theorem compile_eq_namingCollision_iff {identifier first second : String} :
    document.compile config formatter registry =
        .error (.namingCollision identifier first second) ↔
      DeclaredSchema.normalize document.definitions =
        .error (.namingCollision identifier first second) := by
  refine ⟨fun failed => ?_, compile_of_collision⟩
  rcases stage_of_compile failed with collision | ⟨declared, -, formatting | requests⟩
  · exact collision
  · cases emitted?_of_formatModule formatting
  · rcases stage_of_compileRequests requests with unknown | ⟨chosen, -, taken | formatting⟩
    · cases eq_unknownTemplate_of_strategy unknown
    · have outcome :=
        outcome_requestFunctions config chosen declared (document.selected config.tags)
      obtain ⟨_, _, _, -, reported⟩ := outcome.eq_error_iff.mp taken
      cases reported
    · cases emitted?_of_formatModule formatting

/-- A collision is reported exactly if two definitions have one name, and then for the first
repeat. -/
theorem compile_eq_namingCollision_iff_firstRepeat {identifier first second : String} :
    document.compile config formatter registry =
        .error (.namingCollision identifier first second) ↔
      ∃ a b, FirstRepeat DeclaredSchema.name? document.definitions identifier a b ∧
        a.name = first ∧ b.name = second := by
  rw [compile_eq_namingCollision_iff,
    (DeclaredSchema.outcome_normalize document.definitions).eq_error_iff]
  constructor
  · rintro ⟨_, a, b, repeated, reported⟩
    cases reported
    exact ⟨a, b, repeated, rfl, rfl⟩
  · rintro ⟨a, b, repeated, rfl, rfl⟩
    exact ⟨identifier, a, b, repeated, rfl⟩

section Requests

variable {declared : List DeclaredSchema} {chosen : RequestStrategy} {types : Module}
  (normalized : DeclaredSchema.normalize document.definitions = .ok declared)
  (registered : strategy config registry = .ok chosen) (both : config.typeOnly = false)
  (formatted : formatModule formatter config (typesModule config declared) = .ok types)

include normalized registered both formatted

/-- Once the declarations are there, the names of the functions decide. -/
theorem compile_eq_duplicateOperation_iff {name first second : String} :
    document.compile config formatter registry =
        .error (.duplicateOperation name first second) ↔
      checkDistinct [] (requestFunctions config chosen declared
        (document.selected config.tags)) = .error (.duplicateOperation name first second) := by
  constructor
  · intro failed
    rcases stage_of_compile failed with collision | ⟨_, isDeclared, formatting | requests⟩
    · rw [normalized] at collision
      cases collision
    · cases emitted?_of_formatModule formatting
    · cases normalized.symm.trans isDeclared
      rcases stage_of_compileRequests requests with unknown | ⟨_, isChosen, taken | formatting⟩
      · cases eq_unknownTemplate_of_strategy unknown
      · cases registered.symm.trans isChosen
        exact taken
      · cases emitted?_of_formatModule formatting
  · intro taken
    refine compile_of_requests normalized formatted both ?_
    rw [compileRequests, registered]
    change (checkDistinct [] _ >>= fun _ => _) = _
    rw [taken]
    rfl

/-- A duplicate is reported exactly if two operations have functions of one name, and then for the
first repeat. -/
theorem compile_eq_duplicateOperation_iff_firstRepeat {name first second : String} :
    document.compile config formatter registry =
        .error (.duplicateOperation name first second) ↔
      ∃ a b, FirstRepeat (Operation.functionName? config.naming) (document.selected config.tags)
        name a b ∧ a.location = first ∧ b.location = second := by
  rw [compile_eq_duplicateOperation_iff normalized registered both formatted,
    (outcome_requestFunctions config chosen declared _).eq_error_iff]
  constructor
  · rintro ⟨_, a, b, repeated, reported⟩
    cases reported
    exact ⟨a, b, repeated, rfl, rfl⟩
  · rintro ⟨a, b, repeated, rfl, rfl⟩
    exact ⟨name, a, b, repeated, rfl⟩

end Requests

/-! ## Successes -/

namespace Succeeds

variable {declared : List DeclaredSchema} {output : CompileOutput}
  (succeeds : Succeeds document config formatter registry declared output)

include succeeds

/-- Every definition with a usable name is declared, in order. -/
theorem unitNames_types_eq_filterMap :
    output.types.unitNames = document.definitions.filterMap DeclaredSchema.name? := by
  have outcome := DeclaredSchema.outcome_normalize document.definitions
  rw [succeeds.unitNames_types, (outcome.eq_ok_iff.mp succeeds.normalized).2,
    DeclaredSchema.map_identifier_filterMap]

/-- The declared names are distinct. -/
theorem nodup_unitNames_types : output.types.unitNames.Nodup := by
  have outcome := DeclaredSchema.outcome_normalize document.definitions
  rw [succeeds.unitNames_types_eq_filterMap]
  exact (outcome.eq_ok_iff.mp succeeds.normalized).1

/-- Every selected operation has its function, in order and under a name of its own. -/
theorem unitNames_requests {requests : Module} (isProduced : output.requests? = some requests) :
    requests.unitNames = (document.selected config.tags).map (·.functionName config.naming) ∧
      requests.unitNames.Nodup := by
  obtain ⟨chosen, succeed⟩ := exists_requestsSucceed (succeeds.requests requests isProduced)
  have outcome := outcome_requestFunctions config chosen declared
    (document.selected config.tags)
  have distinct := (outcome.eq_ok_iff.mp succeed.distinct).1
  have names : (document.selected config.tags).filterMap
      (Operation.functionName? config.naming) = requests.unitNames := by
    rw [succeed.unitNames]
    exact congrFun List.filterMap_eq_map _
  exact ⟨succeed.unitNames, names ▸ distinct⟩

end Succeeds

/-- Repeats of names are found exactly. A compilation reports a collision if and only if two
definitions have one name; else, once strategy and declarations are there, it reports a duplicate if
and only if two selected operations have functions of one name. What it reports is the first repeat.
So the units of its modules have distinct names, in the order of the document, and no definition
with a usable name is lost. -/
theorem compile_reports_first_repeat (document : Document) (config : CompileConfig)
    (formatter : Formatter) (registry : StrategyRegistry) :
    ((∃ identifier first second, document.compile config formatter registry =
          .error (.namingCollision identifier first second)) ↔
        HasRepeat DeclaredSchema.name? document.definitions) ∧
      (∀ identifier first second, document.compile config formatter registry =
          .error (.namingCollision identifier first second) ↔
        ∃ a b, FirstRepeat DeclaredSchema.name? document.definitions identifier a b ∧
          a.name = first ∧ b.name = second) ∧
      (¬ HasRepeat DeclaredSchema.name? document.definitions →
        (∃ chosen, strategy config registry = .ok chosen) → config.typeOnly = false →
        (∀ declared, DeclaredSchema.normalize document.definitions = .ok declared →
          ∃ types, formatModule formatter config (typesModule config declared) = .ok types) →
        ((∃ name first second, document.compile config formatter registry =
              .error (.duplicateOperation name first second)) ↔
            HasRepeat (Operation.functionName? config.naming) (document.selected config.tags)) ∧
          ∀ name first second, document.compile config formatter registry =
              .error (.duplicateOperation name first second) ↔
            ∃ a b, FirstRepeat (Operation.functionName? config.naming)
              (document.selected config.tags) name a b ∧ a.location = first ∧ b.location = second) ∧
      ∀ output, document.compile config formatter registry = .ok output →
        output.types.unitNames = document.definitions.filterMap DeclaredSchema.name? ∧
          output.types.unitNames.Nodup ∧
          ∀ requests, output.requests? = some requests →
            requests.unitNames =
                (document.selected config.tags).map (·.functionName config.naming) ∧
              requests.unitNames.Nodup := by
  have definitions := DeclaredSchema.outcome_normalize document.definitions
  refine ⟨?_, fun identifier first second => compile_eq_namingCollision_iff_firstRepeat, ?_, ?_⟩
  · simp only [compile_eq_namingCollision_iff_firstRepeat]
    exact definitions.exists_repeat_iff _
  · rintro distinct ⟨chosen, registered⟩ both formats
    have normalized := definitions.eq_ok_iff.mpr ⟨Naming.nodup_filterMap_iff.mpr distinct, rfl⟩
    obtain ⟨types, formatted⟩ := formats _ normalized
    have functions := outcome_requestFunctions config chosen
      (document.definitions.filterMap DeclaredSchema.ofSource?) (document.selected config.tags)
    simp only [compile_eq_duplicateOperation_iff_firstRepeat normalized registered both formatted,
      implies_true, and_true]
    exact functions.exists_repeat_iff _
  · intro output done
    obtain ⟨declared, succeeds⟩ := exists_succeeds done
    exact ⟨succeeds.unitNames_types_eq_filterMap, succeeds.nodup_unitNames_types,
      fun requests isProduced => succeeds.unitNames_requests isProduced⟩

/-! ## Names that meet -/

/-- Definitions of the given names and two operations of the given identifiers. -/
def pairDocument (names : List String) (first second : String) : Document :=
  { definitions := names.map fun name => ⟨name, .mk (.primitive "string") none none⟩
    operations :=
      [{ path := "/a", method := .get, operationId? := some first },
        { path := "/b", method := .get, operationId? := some second }] }

theorem compile_reports_animals :
    (pairDocument ["Animal<Dog>", "Pet", "Animal_Dog"] "fetchThing" "listThings").compile {}
          verbatim .builtin =
        .error (.namingCollision "Animal_Dog" "Animal<Dog>" "Animal_Dog") ∧
      (pairDocument ["Animal<Dog>", "Pet"] "fetchThing" "fetch-thing").compile {} verbatim
          .builtin =
        .error (.duplicateOperation "fetchThing" "GET /a" "GET /b") := by
  constructor
  · refine ((compile_reports_first_repeat _ {} verbatim .builtin).2.1 _ _ _).mpr ?_
    refine ⟨_, _, ⟨[], [_], [], rfl, ?_, ?_, List.forall_mem_nil _, ?_⟩, rfl, rfl⟩ <;>
      decide +kernel
  · let document := pairDocument ["Animal<Dog>", "Pet"] "fetchThing" "fetch-thing"
    have distinct : ¬ HasRepeat DeclaredSchema.name? document.definitions :=
      Naming.nodup_filterMap_iff.mp (by decide +kernel)
    have results := compile_reports_first_repeat document {} verbatim .builtin
    refine ((results.2.2.1 distinct ⟨.axios, rfl⟩ rfl fun _ _ => ⟨_, rfl⟩).2 _ _ _).mpr ?_
    refine ⟨_, _, ⟨[], [], [], rfl, ?_, ?_, List.forall_mem_nil _, ?_⟩, rfl, rfl⟩ <;>
      decide +kernel

end Compile

end TypedClient

/-
# Generated names are closed

Whatever name a generated module is written with is declared. The types of definitions refer to
units of the declarations module only. A request function refers to entries of its module's import
list, which lists every definition once and gives no two of them the same local name, so it is
always clear which definition is meant.
-/

import Mathlib.Data.List.Nodup
import TypedClient.Proofs.Compile.Stages
import TypedClient.Proofs.Naming.Alias
import TypedClient.Proofs.Request.Imports

namespace TypedClient.Compile

/-! ## Declared names -/

section Declared

variable {declared : List DeclaredSchema} {name : String}

theorem mem_declaredNames :
    name ∈ declaredNames declared ↔ name ∈ declared.map (·.identifier) :=
  NameSet.mem_ofList

/-- The types of definitions refer to declared names. -/
theorem mem_declaredNames_of_definition {definition : Definition}
    (member : definition ∈ definitions declared) (occurs : name ∈ definition.resolved.type.names) :
    name ∈ declaredNames declared := by
  obtain ⟨d, -, rfl⟩ := List.mem_map.mp member
  obtain ⟨target, isImport, rfl⟩ :=
    (TypeResolver.mem_names_typeOf d.source.schema).mp occurs
  -- Definitions are written under their own names: the resolver has no aliases.
  change target ∈ declaredNames declared
  exact TypeResolver.forall_mem_importsOf (fun _ _ => TypeResolver.mem_of_target? rfl)
    d.source.schema target isImport

theorem mem_declaredNames_of_imports {operation : Operation}
    (isImport : name ∈ operation.imports (requestResolver declared)) :
    name ∈ declaredNames declared :=
  Operation.forall_mem_imports (fun _ _ => TypeResolver.mem_of_target? rfl) name isImport

end Declared

/-! ## Import lists -/

section Imports

variable {config : CompileConfig} {strategy : RequestStrategy} {declared : List DeclaredSchema}
  {operations : List Operation}

/-- Everything the functions import is declared. -/
theorem mem_declaredNames_of_function {function : RequestFunction}
    (member : function ∈ requestFunctions config strategy declared operations) {name : String}
    (isImport : name ∈ function.imports) : name ∈ declaredNames declared := by
  obtain ⟨operation, -, rfl⟩ := List.mem_map.mp member
  exact mem_declaredNames_of_imports isImport

/-- The local names that a request module brings in, in the order of its import list. -/
def importedNames (declared : List DeclaredSchema) (functions : List RequestFunction) :
    List String :=
  (RequestFunction.allImports functions).toList.map (requestResolver declared).localName

/-- No two entries of the import list have the same local name. -/
theorem nodup_importedNames :
    (importedNames declared (requestFunctions config strategy declared operations)).Nodup := by
  have areDeclared : ∀ name ∈ (RequestFunction.allImports
      (requestFunctions config strategy declared operations)).toList,
      name ∈ declaredNames declared := by
    intro name member
    obtain ⟨function, isFunction, isImport⟩ := RequestFunction.mem_allImports.mp member
    exact mem_declaredNames_of_function isFunction isImport
  refine List.Nodup.map_on ?_ (NameSet.nodup_toList _)
  intro a aImported b bImported same
  exact Naming.eq_of_lookup_importAliases (areDeclared a aImported) (areDeclared b bImported) same

/-- A name that a function is written with stands for one entry of the import list. -/
theorem count_importedNames {operation : Operation} (selected : operation ∈ operations)
    {type : TypeExpr} (written : type ∈ operation.writtenTypes (requestResolver declared))
    {name : String} (occurs : name ∈ type.names) :
    (importedNames declared (requestFunctions config strategy declared operations)).count name =
      1 := by
  obtain ⟨target, isImport, isLocal⟩ :=
    Operation.exists_import_of_mem_writtenTypes written occurs
  have isFunction : operation.requestFunction (requestResolver declared) config strategy ∈
      requestFunctions config strategy declared operations := List.mem_map_of_mem selected
  have imported := RequestFunction.mem_allImports.mpr ⟨_, isFunction, isImport⟩
  exact List.count_eq_one_of_mem nodup_importedNames (List.mem_map.mpr ⟨target, imported, isLocal⟩)

end Imports

/-- A schema that refers to a definition. -/
def referTo (name : String) : Schema :=
  .mk (.reference ("#/definitions/" ++ name)) none none

/-- An operation that takes a pet and answers with faults. -/
def faultyOperation : Operation :=
  { path := "/pets"
    method := .post
    operationId? := some "addPet"
    parameters := [⟨"pet", .body, true, none, referTo "Pet"⟩]
    response? := some (.mk (.array (some (referTo "Error"))) none none) }

/-- Pets with a fault, what a fault is, and the operation. -/
def faultyDocument : Document :=
  { definitions :=
      [⟨"Pet", .mk (.object [.mk "fault" (referTo "Error") true] none) none none⟩,
        ⟨"Error", .mk (.primitive "string") none none⟩]
    operations := [faultyOperation] }

/-- The definitions are declared under their own names. -/
def faultyDeclared : List DeclaredSchema :=
  faultyDocument.definitions.map fun source => ⟨source.name, source⟩

end TypedClient.Compile

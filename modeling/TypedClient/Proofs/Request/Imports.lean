/-
# Imports of request functions

A request function is written with the types of its arguments and of its answer. All of these are
resolved from schemas, so its imports are targets of references, and every name it is written with
stands for one of them.
-/

import Mathlib.Data.List.Basic
import TypedClient.Proofs.Types.Names
import TypedClient.Request.Function

namespace TypedClient

/-! ## Parameters -/

namespace RequestParameters

variable {resolver : TypeResolver} {operation : Operation} {name : String}

theorem mem_fieldParameters {parameters : RequestParameters} {p : ResolvedParameter} :
    p ∈ parameters.fieldParameters ↔
      p ∈ parameters.query ∨ p ∈ parameters.headers ∨ p ∈ parameters.form ∨
        p ∈ parameters.body? := by
  simp [fieldParameters, grouped]

theorem mem_fieldParameters_of_wholeBody? {parameters : RequestParameters}
    {body : ResolvedParameter} (isWhole : parameters.wholeBody? = some body) :
    body ∈ parameters.fieldParameters := by
  unfold wholeBody? at isWhole
  split at isWhole
  · exact mem_fieldParameters.mpr (Or.inr (Or.inr (Or.inr isWhole)))
  · cases isWhole

/-- The parameters of an operation are resolved from their schemas. -/
theorem exists_schema_of_mem {p : ResolvedParameter}
    (member : p ∈ (ofOperation resolver operation).path ++
      (ofOperation resolver operation).fieldParameters) :
    ∃ schema, p.resolved = resolver.resolve schema := by
  let all := (keepFirst [] operation.parameters).map fun parameter =>
    { parameter, resolved := resolver.resolve parameter.schema : ResolvedParameter }
  have inAll : p ∈ all := by
    rw [List.mem_append, mem_fieldParameters] at member
    rcases member with inPath | inQuery | inHeaders | inForm | isBody
    · exact List.mem_of_mem_filter inPath
    · exact List.mem_of_mem_filter inQuery
    · exact List.mem_of_mem_filter inHeaders
    · exact List.mem_of_mem_filter inForm
    · exact List.mem_of_mem_filter (List.mem_of_mem_head? isBody)
  obtain ⟨parameter, -, rfl⟩ := List.mem_map.mp inAll
  exact ⟨parameter.schema, rfl⟩

theorem mem_imports {parameters : RequestParameters} : name ∈ parameters.imports ↔
    ∃ p ∈ parameters.path ++ parameters.fieldParameters, name ∈ p.resolved.imports := by
  rw [imports, NameSet.mem_foldl_union]
  exact or_iff_right (NameSet.notMem_empty name)

/-- A name in the type of a parameter stands for an import. -/
theorem exists_import_of_mem {p : ResolvedParameter}
    (member : p ∈ (ofOperation resolver operation).path ++
      (ofOperation resolver operation).fieldParameters)
    (occurs : name ∈ p.resolved.type.names) :
    ∃ target ∈ (ofOperation resolver operation).imports, resolver.localName target = name := by
  obtain ⟨schema, resolved⟩ := exists_schema_of_mem member
  have occursInType : name ∈ (resolver.typeOf schema).names := by rwa [resolved] at occurs
  obtain ⟨target, isImport, written⟩ := (TypeResolver.mem_names_typeOf schema).mp occursInType
  refine ⟨target, mem_imports.mpr ⟨p, member, ?_⟩, written⟩
  rw [resolved]
  exact isImport

theorem exists_import_of_firstArgument? {first : FirstArgument}
    (isFirst : (ofOperation resolver operation).firstArgument? = some first)
    (occurs : name ∈ first.type.names) :
    ∃ target ∈ (ofOperation resolver operation).imports, resolver.localName target = name := by
  unfold firstArgument? at isFirst
  split at isFirst
  · rename_i body isWhole
    cases isFirst
    exact exists_import_of_mem
      (List.mem_append_right _ (mem_fieldParameters_of_wholeBody? isWhole)) occurs
  · split at isFirst
    · cases isFirst
    · cases isFirst
      obtain ⟨field, isField, occurs⟩ := TypeExpr.mem_names_record.mp occurs
      obtain ⟨p, isParameter, rfl⟩ := List.mem_map.mp isField
      exact exists_import_of_mem (List.mem_append_right _ isParameter) occurs

theorem exists_import_of_pathType? {url : UrlTemplate} {type : TypeExpr}
    (isPath : (ofOperation resolver operation).pathType? url = some type)
    (occurs : name ∈ type.names) :
    ∃ target ∈ (ofOperation resolver operation).imports, resolver.localName target = name := by
  unfold pathType? at isPath
  split at isPath
  · cases isPath
  · cases isPath
    obtain ⟨field, isField, occurs⟩ := TypeExpr.mem_names_record.mp occurs
    obtain ⟨placeholder, -, rfl⟩ := List.mem_map.mp isField
    unfold placeholderField at occurs
    split at occurs
    · rename_i p found
      exact exists_import_of_mem (List.mem_append_left _ (List.mem_of_find?_eq_some found)) occurs
    · cases occurs

end RequestParameters

/-! ## Operations -/

namespace Operation

variable {resolver : TypeResolver} {operation : Operation} {name : String}

/-- The types that the operation's function is written with: those of its arguments and of its
answer. -/
def writtenTypes (operation : Operation) (resolver : TypeResolver) : List TypeExpr :=
  ((operation.arguments resolver).first?.map (·.type)).toList ++
    (operation.arguments resolver).path?.toList ++ [(operation.resolvedResponse resolver).type]

/-- What holds of all targets of references holds of all imports. -/
theorem forall_mem_imports {P : String → Prop}
    (each : ∀ pointer name, resolver.target? pointer = some name → P name) :
    ∀ name ∈ operation.imports resolver, P name := by
  intro name member
  rcases NameSet.mem_union.mp member with inParameters | inResponse
  · obtain ⟨p, isParameter, inImports⟩ := RequestParameters.mem_imports.mp inParameters
    obtain ⟨schema, resolved⟩ := RequestParameters.exists_schema_of_mem isParameter
    rw [resolved] at inImports
    exact TypeResolver.forall_mem_importsOf each schema name inImports
  · unfold Operation.resolvedResponse at inResponse
    cases response : operation.response? with
    | none =>
        rw [response] at inResponse
        exact absurd inResponse (NameSet.notMem_empty name)
    | some schema =>
        rw [response] at inResponse
        exact TypeResolver.forall_mem_importsOf each schema name inResponse

theorem exists_import_of_resolvedResponse
    (occurs : name ∈ (operation.resolvedResponse resolver).type.names) :
    ∃ target ∈ (operation.resolvedResponse resolver).imports,
      resolver.localName target = name := by
  unfold resolvedResponse at occurs ⊢
  cases response : operation.response? with
  | none =>
      rw [response] at occurs
      cases occurs
  | some schema =>
      rw [response] at occurs
      exact (TypeResolver.mem_names_typeOf schema).mp occurs

/-- A name that the operation's function is written with stands for an import. -/
theorem exists_import_of_mem_writtenTypes {type : TypeExpr}
    (written : type ∈ operation.writtenTypes resolver) (occurs : name ∈ type.names) :
    ∃ target ∈ operation.imports resolver, resolver.localName target = name := by
  have ofParameters : (∃ target ∈ (RequestParameters.ofOperation resolver operation).imports,
      resolver.localName target = name) →
      ∃ target ∈ operation.imports resolver, resolver.localName target = name := by
    rintro ⟨target, isImport, isLocal⟩
    exact ⟨target, NameSet.mem_union.mpr (Or.inl isImport), isLocal⟩
  rw [writtenTypes, List.mem_append, List.mem_append, List.mem_singleton] at written
  rcases written with (ofFirst | isPath) | rfl
  · obtain ⟨first, isFirst, rfl⟩ := Option.map_eq_some_iff.mp (Option.mem_toList.mp ofFirst)
    exact ofParameters (RequestParameters.exists_import_of_firstArgument? isFirst occurs)
  · exact ofParameters
      (RequestParameters.exists_import_of_pathType? (Option.mem_toList.mp isPath) occurs)
  · obtain ⟨target, isImport, isLocal⟩ := exists_import_of_resolvedResponse occurs
    exact ⟨target, NameSet.mem_union.mpr (Or.inr isImport), isLocal⟩

end Operation

namespace RequestFunction

/-- Several functions refer to what one of them refers to. -/
theorem mem_allImports {functions : List RequestFunction} {name : String} :
    name ∈ allImports functions ↔ ∃ function ∈ functions, name ∈ function.imports := by
  rw [allImports, NameSet.mem_foldl_union]
  exact or_iff_right (NameSet.notMem_empty name)

end RequestFunction

end TypedClient

/-
# Declared definitions

Definitions are declared one after the other under their normalized names, and those without a
usable name are left out. If the names are distinct, nothing else is lost; if they are not, the
first repeat is reported.
-/

import TypedClient.Compile.Normalize
import TypedClient.Proofs.Naming.Identifier
import TypedClient.Proofs.Naming.Repeat

namespace TypedClient.DeclaredSchema

open Naming (DistinctOutcome FirstRepeat)

/-- The name a definition is declared under, if it has a usable one. -/
def name? (source : NamedSchema) : Option String :=
  Naming.definitionName? source.name

/-- A definition as it is declared. -/
def ofSource? (source : NamedSchema) : Option DeclaredSchema :=
  (name? source).map fun identifier => ⟨identifier, source⟩

/-- The error that reports two definitions of one name. -/
def collision (identifier : String) (first second : NamedSchema) : CompileError :=
  .namingCollision identifier first.name second.name

variable {sources before : List NamedSchema}

theorem map_identifier_filterMap :
    (sources.filterMap ofSource?).map (·.identifier) = sources.filterMap name? := by
  rw [List.map_filterMap]
  refine List.filterMap_congr fun source _ => ?_
  rw [ofSource?]
  cases name? source <;> rfl

/-- What is declared is one of the definitions under its own name. -/
theorem mem_filterMap_ofSource? {d : DeclaredSchema} :
    d ∈ sources.filterMap ofSource? ↔ d.source ∈ sources ∧ name? d.source = some d.identifier := by
  rw [List.mem_filterMap]
  constructor
  · rintro ⟨source, member, declared⟩
    obtain ⟨identifier, hasName, rfl⟩ := Option.map_eq_some_iff.mp declared
    exact ⟨member, hasName⟩
  · rintro ⟨member, hasName⟩
    exact ⟨d.source, member, Option.map_eq_some_iff.mpr ⟨d.identifier, hasName, rfl⟩⟩

/-- A name is found among the declared ones if an earlier definition has it. -/
theorem name?_of_find? {identifier : String} {taken : DeclaredSchema}
    (found : (before.filterMap ofSource?).reverse.find? (·.identifier == identifier) =
      some taken) : taken.source ∈ before ∧ name? taken.source = some identifier := by
  have named := List.find?_some found
  have member := List.mem_reverse.mp (List.mem_of_find?_eq_some found)
  obtain ⟨isSource, hasName⟩ := mem_filterMap_ofSource?.mp member
  rw [beq_iff_eq.mp named] at hasName
  exact ⟨isSource, hasName⟩

/-- A name is not found among the declared ones if no earlier definition has it. -/
theorem name?_ne_of_find? {identifier : String}
    (free : (before.filterMap ofSource?).reverse.find? (·.identifier == identifier) = none) :
    ∀ source ∈ before, name? source ≠ some identifier := by
  intro source member hasName
  have declared : ⟨identifier, source⟩ ∈ (before.filterMap ofSource?).reverse :=
    List.mem_reverse.mpr (mem_filterMap_ofSource?.mpr ⟨member, hasName⟩)
  exact List.find?_eq_none.mp free _ declared (beq_self_eq_true identifier)

/-- Once definitions of distinct names are declared, the others are declared too if their names
are new. -/
theorem outcome_normalizeAfter (before rest : List NamedSchema)
    (distinct : (before.filterMap name?).Nodup) :
    DistinctOutcome name? (before ++ rest) collision ((before ++ rest).filterMap ofSource?)
      (normalizeAfter (before.filterMap ofSource?).reverse rest) := by
  induction rest generalizing before with
  | nil =>
      rw [List.append_nil, normalizeAfter, List.reverse_reverse]
      exact .distinct distinct
  | cons source rest ih =>
      have next := ih (before ++ [source])
      have parts : (before ++ [source]).filterMap ofSource? =
          before.filterMap ofSource? ++ [source].filterMap ofSource? := List.filterMap_append
      rw [List.append_assoc, List.singleton_append, parts, List.reverse_append] at next
      rw [normalizeAfter]
      split
      · rename_i unnamed
        have skipped : [source].filterMap ofSource? = [] := by simp [ofSource?, name?, unnamed]
        rw [skipped] at next
        exact next (Naming.nodup_filterMap_concat distinct fun name isName =>
          absurd (unnamed.symm.trans isName) nofun)
      · rename_i identifier isName
        split
        · rename_i taken found
          obtain ⟨member, hasName⟩ := name?_of_find? found
          exact .repeated (FirstRepeat.of_mem distinct member hasName isName)
        · rename_i free
          have added : [source].filterMap ofSource? = [⟨identifier, source⟩] := by
            simp [ofSource?, name?, isName]
          rw [added] at next
          refine next (Naming.nodup_filterMap_concat distinct fun name hasName => ?_)
          cases isName.symm.trans hasName
          exact name?_ne_of_find? free

/-- Definitions are declared if their names are distinct; else the first repeat is reported. -/
theorem outcome_normalize (sources : List NamedSchema) :
    DistinctOutcome name? sources collision (sources.filterMap ofSource?) (normalize sources) :=
  outcome_normalizeAfter [] sources List.nodup_nil

/-- Definitions are declared under valid identifiers. -/
theorem isValidIdentifier_of_normalize {declared : List DeclaredSchema}
    (normalized : normalize sources = .ok declared) :
    ∀ d ∈ declared, Naming.isValidIdentifier d.identifier = true := by
  intro d member
  rw [((outcome_normalize sources).eq_ok_iff.mp normalized).2] at member
  exact Naming.isValidIdentifier_of_definitionName? (mem_filterMap_ofSource?.mp member).2

end TypedClient.DeclaredSchema

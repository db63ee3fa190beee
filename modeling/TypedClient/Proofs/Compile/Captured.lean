/-
# Captured names

Types are written with names that the language gives a meaning to. A definition that is declared
under such a name takes it over for the whole declarations module. Definitions are kept off the
predefined names, but the names of files, forms and maps are none of these.
-/

import TypedClient.Proofs.Compile.Collisions
import TypedClient.Proofs.Naming.Stable
import TypedClient.Proofs.Types.BuiltIn

namespace TypedClient.Compile

open Naming (predefinedTypes)

/-- A type of the definitions is written with the built-in name, and a definition is declared under
it. -/
def Captures (name : String) (definitions : List Definition) (declarations : Module) : Prop :=
  (∃ definition ∈ definitions, definition.resolved.type.Uses name) ∧
    name ∈ declarations.unitNames

variable {document : Document} {config : CompileConfig} {formatter : Formatter}
  {registry : StrategyRegistry} {declared : List DeclaredSchema} {output : CompileOutput}
  {name : String}

/-- The definitions use a name that is not predefined exactly if their schemas show what it stands
for. -/
theorem exists_uses_iff (free : name ∉ predefinedTypes) :
    (∃ definition ∈ definitions declared, definition.resolved.type.Uses name) ↔
      ∃ d ∈ declared, d.source.schema.Shows name := by
  simp only [definitions, List.mem_map, exists_exists_and_eq_and]
  exact exists_congr fun d => and_congr_right fun _ => TypeResolver.uses_typeOf_iff free _

namespace Succeeds

variable (succeeds : Succeeds document config formatter registry declared output)

include succeeds

theorem notMem_predefinedTypes (isUnit : name ∈ output.types.unitNames) :
    name ∉ predefinedTypes := by
  rw [succeeds.unitNames_types_eq_filterMap] at isUnit
  obtain ⟨_, -, isName⟩ := List.mem_filterMap.mp isUnit
  exact (Naming.isFlat_of_definitionName? isName).2

/-- The names of files, forms and maps are declared whenever a definition has one of them. -/
theorem mem_unitNames_iff (isShown : name ∈ ["Blob", "FormData", "Record"]) :
    name ∈ output.types.unitNames ↔
      ∃ source ∈ document.definitions, Naming.flatten source.name = name := by
  have legal : ∀ name ∈ ["Blob", "FormData", "Record"], Naming.isValidIdentifier name = true ∧
      name ∉ predefinedTypes ∧ name.toList.head? ≠ some '_' := by decide
  obtain ⟨valid, free, unmarked⟩ := legal name isShown
  rw [succeeds.unitNames_types_eq_filterMap, List.mem_filterMap]
  exact exists_congr fun source => and_congr_right fun _ =>
    Naming.definitionName?_eq_some_iff_flatten valid free unmarked

/-- What the declared definitions show, definitions of the document show that have a usable name. -/
theorem exists_shows_iff :
    (∃ d ∈ declared, d.source.schema.Shows name) ↔
      ∃ source ∈ document.definitions,
        (∃ c ∈ source.name.toList, Text.isAlphanumeric c = true) ∧ source.schema.Shows name := by
  have outcome := DeclaredSchema.outcome_normalize document.definitions
  have usable (source : NamedSchema) : (∃ c ∈ source.name.toList, Text.isAlphanumeric c = true) ↔
      ∃ identifier, DeclaredSchema.name? source = some identifier := by
    rw [← Option.ne_none_iff_exists', DeclaredSchema.name?, Ne,
      Naming.definitionName?_eq_none_iff]
    simp
  rw [(outcome.eq_ok_iff.mp succeeds.normalized).2]
  constructor
  · rintro ⟨d, isDeclared, shows⟩
    obtain ⟨isSource, isName⟩ := DeclaredSchema.mem_filterMap_ofSource?.mp isDeclared
    exact ⟨d.source, isSource, (usable _).mpr ⟨_, isName⟩, shows⟩
  · rintro ⟨source, isSource, named, shows⟩
    obtain ⟨identifier, isName⟩ := (usable source).mp named
    exact ⟨⟨identifier, source⟩, DeclaredSchema.mem_filterMap_ofSource?.mpr ⟨isSource, isName⟩,
      shows⟩

end Succeeds

/-- Exactly the names of files, forms and maps can be captured: one of them is if a definition with
a usable name shows a file, a form or a map, and the raw name of a definition, the same or another,
flattens to `Blob`, `FormData` or `Record`. No other built-in name ever is. -/
theorem compile_captures_iff (done : document.compile config formatter registry = .ok output) :
    ∃ declared, DeclaredSchema.normalize document.definitions = .ok declared ∧
      formatModule formatter config (typesModule config declared) = .ok output.types ∧
      ∀ name, Captures name (definitions declared) output.types ↔
        (∃ source ∈ document.definitions,
          (∃ c ∈ source.name.toList, Text.isAlphanumeric c = true) ∧
            source.schema.Shows name) ∧
        ∃ source ∈ document.definitions, Naming.flatten source.name = name := by
  obtain ⟨declared, succeeds⟩ := exists_succeeds done
  refine ⟨declared, succeeds.normalized, succeeds.types, fun name => ?_⟩
  rw [← succeeds.exists_shows_iff]
  constructor
  · rintro ⟨uses, isUnit⟩
    obtain ⟨d, isDeclared, shows⟩ :=
      (exists_uses_iff (succeeds.notMem_predefinedTypes isUnit)).mp uses
    exact ⟨⟨d, isDeclared, shows⟩, (succeeds.mem_unitNames_iff shows.mem).mp isUnit⟩
  · rintro ⟨⟨d, isDeclared, shows⟩, isFlattened⟩
    have isUnit := (succeeds.mem_unitNames_iff shows.mem).mpr isFlattened
    have free := succeeds.notMem_predefinedTypes isUnit
    exact ⟨(exists_uses_iff free).mpr ⟨d, isDeclared, shows⟩, isUnit⟩

/-! ## A file that becomes a text -/

/-- An avatar with a picture, and a text under the given name. -/
def avatarDocument (name : String) : Document :=
  { definitions :=
      [⟨name, .mk (.primitive "string") none none⟩,
        ⟨"Avatar", .mk (.object [.mk "image" (.mk (.primitive "file") none none) false] none) none
          none⟩] }

/-- The definitions of `avatarDocument` if they are declared as they are called. -/
def avatarDeclared (name : String) : List DeclaredSchema :=
  (avatarDocument name).definitions.map fun source => ⟨source.name, source⟩

theorem compile_captures_iff_avatar :
    ∃ captured free, (avatarDocument "Blob").compile {} verbatim .builtin = .ok captured ∧
      Captures "Blob" (definitions (avatarDeclared "Blob")) captured.types ∧
      (avatarDocument "Blobs").compile {} verbatim .builtin = .ok free ∧
      ¬ Captures "Blob" (definitions (avatarDeclared "Blobs")) free.types := by
  have bothOk : ((avatarDocument "Blob").compile {} verbatim .builtin).isOk = true ∧
      ((avatarDocument "Blobs").compile {} verbatim .builtin).isOk = true := by decide +kernel
  obtain ⟨captured, done⟩ := exists_eq_ok_of_isOk bothOk.1
  obtain ⟨free, doneToo⟩ := exists_eq_ok_of_isOk bothOk.2
  obtain ⟨declared, normalized, -, capture⟩ := compile_captures_iff done
  obtain ⟨declaredToo, normalizedToo, -, captureToo⟩ := compile_captures_iff doneToo
  cases (rfl : DeclaredSchema.normalize (avatarDocument "Blob").definitions =
    .ok (avatarDeclared "Blob")).symm.trans normalized
  cases (rfl : DeclaredSchema.normalize (avatarDocument "Blobs").definitions =
    .ok (avatarDeclared "Blobs")).symm.trans normalizedToo
  refine ⟨captured, free, done, (capture "Blob").mpr ⟨?_, ?_⟩, doneToo, fun captures => ?_⟩
  · refine ⟨_, List.mem_cons_of_mem _ List.mem_cons_self, ⟨'A', by decide, by decide⟩, ?_⟩
    exact .inside List.mem_cons_self (.here rfl)
  · exact ⟨_, List.mem_cons_self, by decide⟩
  · have noBlob : ∀ source ∈ (avatarDocument "Blobs").definitions,
        Naming.flatten source.name ≠ "Blob" := by decide
    obtain ⟨source, isSource, flattened⟩ := ((captureToo "Blob").mp captures).2
    exact noBlob source isSource flattened

/-- A text takes the name over that the picture of an avatar is written with. -/
theorem captures_avatarBlob :
    ∃ output, (avatarDocument "Blob").compile {} verbatim .builtin = .ok output ∧
      DeclaredSchema.normalize (avatarDocument "Blob").definitions =
        .ok (avatarDeclared "Blob") ∧
      output.types.unitNames = ["Blob", "Avatar"] ∧
      Captures "Blob" (definitions (avatarDeclared "Blob")) output.types := by
  have isOk : ((avatarDocument "Blob").compile {} verbatim .builtin).isOk = true := by
    decide +kernel
  obtain ⟨output, done⟩ := exists_eq_ok_of_isOk isOk
  obtain ⟨declared, succeeds⟩ := exists_succeeds done
  have normalized : DeclaredSchema.normalize (avatarDocument "Blob").definitions =
      .ok (avatarDeclared "Blob") := by rfl
  cases normalized.symm.trans succeeds.normalized
  have units := succeeds.unitNames_types
  refine ⟨output, done, normalized, units, ⟨_, List.mem_cons_of_mem _ List.mem_cons_self, ?_⟩, ?_⟩
  · exact .inside List.mem_cons_self (.here rfl)
  · rw [units]
    exact List.mem_cons_self

end TypedClient.Compile

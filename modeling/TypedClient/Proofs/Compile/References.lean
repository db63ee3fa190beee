/-
# What references resolve to

A reference resolves to a declared definition if the last segment of its pointer, as it is written,
gives the name of one, and to the type of everything if it does not. For the pointer to a definition
this is the definition itself exactly if its key stands in the pointer without escapes. A key with a
tilde or a slash is missed, and another definition may be met in its place.
-/

import TypedClient.Proofs.Compile.Declared
import TypedClient.Proofs.Compile.Stages
import TypedClient.Proofs.Naming.Reference
import TypedClient.Proofs.Types.Imports

namespace TypedClient

namespace ResolvedType

/-- A resolution to one definition and nothing else. -/
def RefersTo (resolved : ResolvedType) (name : String) : Prop :=
  resolved.type = .named name ∧ resolved.imports = NameSet.empty.insert name

/-- A resolution to the type of everything. -/
def IsOpen (resolved : ResolvedType) : Prop :=
  resolved.type = .any ∧ resolved.imports = ∅

theorem RefersTo.eq {resolved : ResolvedType} {name other : String}
    (here : resolved.RefersTo name) (there : resolved.RefersTo other) : name = other :=
  TypeExpr.named.inj (here.1.symm.trans there.1)

theorem RefersTo.not_isOpen {resolved : ResolvedType} {name : String}
    (here : resolved.RefersTo name) : ¬ resolved.IsOpen :=
  fun isOpen => nomatch here.1.symm.trans isOpen.1

end ResolvedType

namespace Compile

variable {declared : List DeclaredSchema} {pointer name : String}
  {description? format? : Option String}

/-- A schema that refers to what a pointer leads to. -/
def refers (pointer : String) (description? format? : Option String) : Schema :=
  .mk (.reference pointer) description? format?

/-! ## Known names -/

theorem isKnown_definitionResolver_iff :
    (definitionResolver declared).isKnown name = true ↔ name ∈ declared.map (·.identifier) :=
  decide_eq_true_iff.trans NameSet.mem_ofList

/-- The target of a pointer is the declared definition that it has the name of. -/
theorem target?_eq_some_iff :
    (definitionResolver declared).target? pointer = some name ↔
      Naming.referenceName? pointer = some name ∧ name ∈ declared.map (·.identifier) := by
  rw [TypeResolver.target?, Option.filter_eq_some_iff, isKnown_definitionResolver_iff]

/-- A reference that has the name of a definition resolves to that name. -/
theorem typeOfKind_reference (isName : Naming.referenceName? pointer = some name)
    (isDeclared : name ∈ declared.map (·.identifier)) :
    (definitionResolver declared).typeOfKind (.reference pointer) = .named name := by
  rw [TypeResolver.typeOfKind, target?_eq_some_iff.mpr ⟨isName, isDeclared⟩]
  rfl

/-! ## Resolved references -/

theorem type_resolve_refers (resolver : TypeResolver) :
    (resolver.resolve (refers pointer description? format?)).type =
      resolver.typeOfKind (.reference pointer) := by
  rw [TypeResolver.resolve, refers, TypeResolver.typeOf]

theorem imports_resolve_refers (resolver : TypeResolver) :
    (resolver.resolve (refers pointer description? format?)).imports =
      resolver.importsOfKind (.reference pointer) := by
  rw [TypeResolver.resolve, refers, TypeResolver.importsOf]

theorem refersTo_of_target? (found : (definitionResolver declared).target? pointer = some name) :
    ((definitionResolver declared).resolve (refers pointer description? format?)).RefersTo
      name := by
  obtain ⟨isName, isDeclared⟩ := target?_eq_some_iff.mp found
  constructor
  · rw [type_resolve_refers, typeOfKind_reference isName isDeclared]
  · rw [imports_resolve_refers, TypeResolver.importsOfKind, found]

theorem isOpen_of_target? (missed : (definitionResolver declared).target? pointer = none) :
    ((definitionResolver declared).resolve (refers pointer description? format?)).IsOpen := by
  constructor
  · rw [type_resolve_refers, TypeResolver.typeOfKind, missed]
  · rw [imports_resolve_refers, TypeResolver.importsOfKind, missed]

/-- A reference resolves to a declared definition exactly if its pointer has the name of it. -/
theorem refersTo_iff :
    ((definitionResolver declared).resolve (refers pointer description? format?)).RefersTo name ↔
      Naming.referenceName? pointer = some name ∧ name ∈ declared.map (·.identifier) := by
  rw [← target?_eq_some_iff]
  refine ⟨fun refersTo => ?_, refersTo_of_target?⟩
  cases target : (definitionResolver declared).target? pointer with
  | none => exact absurd (isOpen_of_target? target) refersTo.not_isOpen
  | some other => rw [(refersTo_of_target? target).eq refersTo]

/-- A reference that resolves to no definition is open. -/
theorem exists_refersTo_or_isOpen :
    let resolved := (definitionResolver declared).resolve (refers pointer description? format?)
    (∃ d ∈ declared, resolved.RefersTo d.identifier) ∨ resolved.IsOpen := by
  intro resolved
  cases target : (definitionResolver declared).target? pointer with
  | none => exact Or.inr (isOpen_of_target? target)
  | some name =>
      obtain ⟨d, member, rfl⟩ := List.mem_map.mp (target?_eq_some_iff.mp target).2
      exact Or.inl ⟨d, member, refersTo_of_target? target⟩

/-! ## References to definitions -/

/-- The pointer to a definition of a document that compiles resolves to the declared name of the
definition exactly if its key has neither tildes nor slashes. Otherwise the segment that the pointer
writes counts as a key of its own: the reference is to the definition with the name that this makes,
which is another one, or to nothing. -/
theorem refersTo_definition_iff {document : Document} {config : CompileConfig}
    {formatter : Formatter} {registry : StrategyRegistry} {output : CompileOutput}
    (done : document.compile config formatter registry = .ok output) :
    ∃ declared, DeclaredSchema.normalize document.definitions = .ok declared ∧
      ∀ source ∈ document.definitions, ∀ name, Naming.definitionName? source.name = some name →
        ∀ place description? format?,
          let pointer := place ++ "/" ++ Json.escapeKey source.name
          let resolved :=
            (definitionResolver declared).resolve (refers pointer description? format?)
          let isPlain := '~' ∉ source.name.toList ∧ '/' ∉ source.name.toList
          (resolved.RefersTo name ↔ isPlain) ∧
            (¬ isPlain → resolved.IsOpen ∨ ∃ other ∈ declared, other.identifier ≠ name ∧
              Naming.definitionName? (Json.escapeKey source.name) = some other.identifier ∧
              resolved.RefersTo other.identifier) := by
  obtain ⟨declared, succeeds⟩ := exists_succeeds done
  have areDeclared :=
    ((DeclaredSchema.outcome_normalize document.definitions).eq_ok_iff.mp succeeds.normalized).2
  refine ⟨declared, succeeds.normalized, ?_⟩
  intro source member name isName place description? format? pointer resolved isPlain
  have isDeclared : name ∈ declared.map (·.identifier) := by
    have isMember : ⟨name, source⟩ ∈ declared := by
      rw [areDeclared]
      exact DeclaredSchema.mem_filterMap_ofSource?.mpr ⟨member, isName⟩
    exact List.mem_map_of_mem isMember
  -- The definition itself is declared, so it is met exactly if the pointer has its name.
  have itself : resolved.RefersTo name ↔ isPlain :=
    refersTo_iff.trans
      ((and_iff_left isDeclared).trans (Naming.referenceName?_escapeKey_iff isName place))
  refine ⟨itself, fun escaped => ?_⟩
  have either : (∃ d ∈ declared, resolved.RefersTo d.identifier) ∨ resolved.IsOpen :=
    exists_refersTo_or_isOpen
  rcases either with ⟨other, isOther, found⟩ | isOpen
  · refine Or.inr ⟨other, isOther, ?_, ?_, found⟩
    · intro same
      rw [same] at found
      exact escaped (itself.mp found)
    · have hasName := (refersTo_iff.mp found).1
      rwa [Naming.referenceName?,
        Naming.lastSegment_append (Json.slash_notMem_escapeKey source.name)] at hasName
  · exact Or.inl isOpen

/-! ## Keys with and without slashes -/

/-- Definitions of texts under the given keys. -/
def textDocument (keys : List String) : Document :=
  { definitions := keys.map fun key => ⟨key, .mk (.primitive "string") none none⟩ }

/-- The definitions as they are declared. -/
def textDeclared (keys : List String) : List DeclaredSchema :=
  (textDocument keys).definitions.filterMap DeclaredSchema.ofSource?

/-- A reference to the definition under a key. -/
def resolvedText (keys : List String) (key : String) : ResolvedType :=
  (definitionResolver (textDeclared keys)).resolve
    (refers ("#/definitions" ++ "/" ++ Json.escapeKey key) none none)

theorem refersTo_definition_iff_page :
    ∃ output, (textDocument ["Page«Pet»"]).compile {} verbatim .builtin = .ok output ∧
      (resolvedText ["Page«Pet»"] "Page«Pet»").RefersTo "Page_Pet" := by
  have isOk : ((textDocument ["Page«Pet»"]).compile {} verbatim .builtin).isOk = true := by
    decide +kernel
  obtain ⟨output, done⟩ := exists_eq_ok_of_isOk isOk
  obtain ⟨declared, normalized, resolves⟩ := refersTo_definition_iff done
  have isDeclared : declared = textDeclared ["Page«Pet»"] :=
    ((DeclaredSchema.outcome_normalize _).eq_ok_iff.mp normalized).2
  rw [isDeclared] at resolves
  have isName : Naming.definitionName? "Page«Pet»" = some "Page_Pet" := by decide +kernel
  obtain ⟨itself, -⟩ :=
    resolves _ List.mem_cons_self "Page_Pet" isName "#/definitions" none none
  have isPlain : '~' ∉ "Page«Pet»".toList ∧ '/' ∉ "Page«Pet»".toList := by decide +kernel
  exact ⟨output, done, itself.mpr isPlain⟩

/-- A key with a slash is missed, and once there is a definition with the name of the escaped key,
that one is met. -/
theorem refersTo_definition_slash :
    Naming.definitionName? "a/b" = some "a_b" ∧
      (∃ output, (textDocument ["a/b"]).compile {} verbatim .builtin = .ok output) ∧
      (resolvedText ["a/b"] "a/b").IsOpen ∧
      (∃ output, (textDocument ["a/b", "a_1b"]).compile {} verbatim .builtin = .ok output) ∧
      (resolvedText ["a/b", "a_1b"] "a/b").RefersTo "a_1b" := by
  have compiles : ∀ keys ∈ [["a/b"], ["a/b", "a_1b"]],
      ((textDocument keys).compile {} verbatim .builtin).isOk = true := by decide +kernel
  refine ⟨by decide +kernel, exists_eq_ok_of_isOk (compiles _ List.mem_cons_self), ?_,
    exists_eq_ok_of_isOk (compiles _ (List.mem_cons_of_mem _ List.mem_cons_self)), ?_⟩
  · have missed : (definitionResolver (textDeclared ["a/b"])).target? "#/definitions/a~1b" =
        none := by decide +kernel
    exact isOpen_of_target? missed
  · have found : (definitionResolver (textDeclared ["a/b", "a_1b"])).target?
        "#/definitions/a~1b" = some "a_1b" := by decide +kernel
    exact refersTo_of_target? found

end Compile

end TypedClient

/-
# Sampling as a walk with a stack

A walk fills in a schema depth first. It keeps the definitions it is inside of on one stack, to
which a reference adds a name before its definition is walked and from which it takes the name
afterwards. Its recursion has no bound of its own: every call takes fuel, a walk without fuel is
stuck, and what ends the recursion before that are the two tests the walk makes on the stack. It
also keeps a record of its calls, so that what holds of every call can be said.

The walk ends on every schema over any definitions, with the sample of the schema: from some point
on, more fuel changes nothing. Every call of it begins with a short stack of distinct definitions
and gives it back as it was. What a call yields depends on its schema and its stack only, so the
parts of a schema are sampled independently.
-/

import Mathlib.Order.Filter.AtTopBot.Basic
import TypedClient.Mock.Sample

namespace TypedClient.Sample

/-! ## The walk -/

/-- A call of the walk, as it ended. -/
structure Call where
  schema : Schema
  /-- The stack when the call began. -/
  entered : List String
  value : Json
  /-- The stack when the call ended. -/
  left : List String

/-- Where a walk is. -/
structure Progress where
  /-- The stack: the definitions being expanded, the innermost first. -/
  expanding : List String := []
  /-- The calls that have ended, the latest first. -/
  calls : List Call := []

/-- Computations with a stack, which may be stuck. -/
abbrev Walk (α : Type) : Type := StateT Progress Option α

namespace Walk

/-- The stack. -/
def stack : Walk (List String) := do
  return (← get).expanding

/-- Puts a name on the stack. -/
def push (name : String) : Walk Unit :=
  modify fun progress => { progress with expanding := name :: progress.expanding }

/-- Takes the innermost name off the stack. -/
def pop : Walk Unit :=
  modify fun progress => { progress with expanding := progress.expanding.tail }

/-- Records the end of a call. -/
def record (schema : Schema) (entered : List String) (value : Json) : Walk Unit :=
  modify fun progress =>
    { progress with calls := ⟨schema, entered, value, progress.expanding⟩ :: progress.calls }

end Walk

open Walk

/-- The definition that a reference opens, with its name: it is declared, and it is not being
expanded. -/
def opened? (definitions : List NamedSchema) (expanding : List String) (pointer : String) :
    Option (String × Schema) := do
  let name ← Naming.referenceName? pointer
  if expanding.contains name then none
  else (definition? definitions name).map fun target => (name, target)

mutual

/-- Walks a schema. -/
def walk (definitions : List NamedSchema) : (fuel : Nat) → Schema → Walk Json
  | 0, _ => failure
  | fuel + 1, schema => do
    let entered ← stack
    let value ← (if entered.length > depthLimit then pure .null
      else walkKind definitions fuel schema.format? schema.kind)
    record schema entered value
    return value

/-- Walks a schema kind in a given format. -/
def walkKind (definitions : List NamedSchema) :
    (fuel : Nat) → (format? : Option String) → SchemaKind → Walk Json
  | 0, _, _ => failure
  | fuel + 1, _, .reference pointer => do
    let expanding ← stack
    match opened? definitions expanding pointer with
    | none => return .null
    | some (name, target) =>
      push name
      let value ← walk definitions fuel target
      pop
      return value
  | fuel + 1, _, .allOf members => walkAll definitions fuel [] members
  | _ + 1, _, .oneOf [] => return .null
  | fuel + 1, _, .oneOf (member :: _) => walk definitions fuel member
  | _ + 1, _, .untyped => return .null
  | fuel + 1, _, .array (some items) => return arraySample (← walk definitions fuel items)
  | _ + 1, _, .array none => return .array []
  | fuel + 1, _, .object [] (some value) =>
    return .object [("key", ← walk definitions fuel value)]
  | _ + 1, _, .object [] none => return .object []
  | fuel + 1, _, .object (first :: rest) _ => walkProperties definitions fuel [] (first :: rest)
  | _ + 1, _, .literals values => return values.head?.getD .null
  | _ + 1, format?, .tags tags => return tagsSample tags format?
  | _ + 1, format?, .primitive tag => return primitiveSample tag format?

/-- Walks the members of an `allOf`, whose objects are merged. The walk stops at a member that is
neither an object nor null if nothing is merged yet. -/
def walkAll (definitions : List NamedSchema) :
    (fuel : Nat) → (merged : List (String × Json)) → List Schema → Walk Json
  | 0, _, _ => failure
  | _ + 1, merged, [] => return .object merged
  | fuel + 1, merged, member :: rest => do
    match ← walk definitions fuel member with
    | .object added => walkAll definitions fuel (mergeMembers merged added) rest
    | .null => walkAll definitions fuel merged rest
    | other => if merged.isEmpty then return other else walkAll definitions fuel merged rest

/-- Walks the properties of an object, given the members before. -/
def walkProperties (definitions : List NamedSchema) :
    (fuel : Nat) → (filled : List (String × Json)) → List SchemaProperty → Walk Json
  | 0, _, _ => failure
  | _ + 1, filled, [] => return .object filled
  | fuel + 1, filled, property :: rest => do
    let value ← walk definitions fuel property.schema
    walkProperties definitions fuel (Json.setMember property.name value filled) rest

end

/-! ## What a walk yields -/

/-- A stack as walks have it: distinct definitions, at most one more than may be open. -/
structure IsStack (definitions : List NamedSchema) (expanding : List String) : Prop where
  distinct : expanding.Nodup
  declared : ∀ name ∈ expanding, name ∈ definitions.map (·.name)
  short : expanding.length ≤ depthLimit + 1

/-- The sample of a schema while the definitions on the stack are being expanded. -/
def within (definitions : List NamedSchema) (expanding : List String) (schema : Schema) : Json :=
  if expanding.length > depthLimit then .null
  else fill (follow definitions (depthLimit - expanding.length) expanding) schema

/-- The samples of the members of an `allOf` merged into members collected so far. -/
def mergeSamples (merged : List (String × Json)) : List Json → Json
  | [] => .object merged
  | .object added :: rest => mergeSamples (mergeMembers merged added) rest
  | .null :: rest => mergeSamples merged rest
  | other :: rest => if merged.isEmpty then other else mergeSamples merged rest

/-- A call that begins with a proper stack, gives it back, and yields the sample. -/
structure Call.IsProper (definitions : List NamedSchema) (call : Call) : Prop where
  stack : IsStack definitions call.entered
  restored : call.left = call.entered
  sampled : call.value = within definitions call.entered call.schema

/-- A walk that ends with a value, whatever calls there were before. It gives the stack back, and
the calls it makes are proper. -/
def Yields {α : Type} (definitions : List NamedSchema) (expanding : List String) (walk : Walk α)
    (value : α) : Prop :=
  ∀ before, ∃ calls, walk.run ⟨expanding, before⟩ = some (value, ⟨expanding, calls ++ before⟩) ∧
    ∀ call ∈ calls, call.IsProper definitions

/-- A walk that ends with a value whenever it has fuel enough. -/
def Ends {α : Type} (definitions : List NamedSchema) (expanding : List String)
    (walk : Nat → Walk α) (value : α) : Prop :=
  ∀ᶠ fuel in Filter.atTop, Yields definitions expanding (walk fuel) value

variable {definitions : List NamedSchema} {expanding : List String}

theorem IsStack.nil (definitions : List NamedSchema) : IsStack definitions [] :=
  ⟨List.nodup_nil, List.forall_mem_nil _, Nat.zero_le _⟩

theorem exists_of_definition? {name : String} {target : Schema}
    (found : definition? definitions name = some target) :
    ∃ definition ∈ definitions, definition.name = name ∧ definition.schema = target := by
  obtain ⟨definition, isFirst, isTarget⟩ := Option.map_eq_some_iff.mp found
  have named := List.find?_some isFirst
  exact ⟨definition, List.mem_reverse.mp (List.mem_of_find?_eq_some isFirst), by simpa using named,
    isTarget⟩

theorem mem_of_definition? {name : String} {target : Schema}
    (found : definition? definitions name = some target) :
    name ∈ definitions.map (·.name) := by
  obtain ⟨definition, member, rfl, -⟩ := exists_of_definition? found
  exact List.mem_map_of_mem member

theorem of_opened? {pointer name : String} {target : Schema}
    (isOpened : opened? definitions expanding pointer = some (name, target)) :
    name ∉ expanding ∧ name ∈ definitions.map (·.name) := by
  rw [opened?, Option.bind_eq_bind, Option.bind_eq_some_iff] at isOpened
  obtain ⟨_, -, found⟩ := isOpened
  split at found
  · cases found
  · rename_i absent
    obtain ⟨_, isDefinition, same⟩ := Option.map_eq_some_iff.mp found
    cases same
    exact ⟨by simpa using absent, mem_of_definition? isDefinition⟩

/-- A reference adds a definition that is not being expanded. -/
theorem IsStack.opened {pointer name : String} {target : Schema}
    (isStack : IsStack definitions expanding) (shallow : expanding.length ≤ depthLimit)
    (isOpened : opened? definitions expanding pointer = some (name, target)) :
    IsStack definitions (name :: expanding) where
  distinct := List.nodup_cons.mpr ⟨(of_opened? isOpened).1, isStack.distinct⟩
  declared := List.forall_mem_cons.mpr ⟨(of_opened? isOpened).2, isStack.declared⟩
  short := Nat.succ_le_succ shallow

namespace Yields

variable {α β : Type} {value : α}

theorem pure (value : α) : Yields definitions expanding (Pure.pure value) value :=
  fun _ => ⟨[], rfl, List.forall_mem_nil _⟩

theorem bind {first : Walk α} {next : α → Walk β} {result : β}
    (yields : Yields definitions expanding first value)
    (goesOn : Yields definitions expanding (next value) result) :
    Yields definitions expanding (first >>= next) result := by
  intro before
  obtain ⟨calls, ran, proper⟩ := yields before
  obtain ⟨later, ranOn, properOn⟩ := goesOn (calls ++ before)
  refine ⟨later ++ calls, ?_, List.forall_mem_append.mpr ⟨properOn, proper⟩⟩
  rw [StateT.run_bind, ran, List.append_assoc]
  exact ranOn

theorem ite {condition : Bool} {first second : Walk α} {other : α}
    (ifTrue : Yields definitions expanding first value)
    (ifFalse : Yields definitions expanding second other) :
    Yields definitions expanding (if condition then first else second)
      (if condition then value else other) := by
  cases condition
  · exact ifFalse
  · exact ifTrue

theorem stack : Yields definitions expanding Walk.stack expanding :=
  fun _ => ⟨[], rfl, List.forall_mem_nil _⟩

theorem record {schema : Schema} {sample : Json} (isStack : IsStack definitions expanding)
    (isSample : sample = within definitions expanding schema) :
    Yields definitions expanding (Walk.record schema expanding sample) () :=
  fun _ => ⟨[⟨schema, expanding, sample, expanding⟩], rfl,
    List.forall_mem_singleton.mpr ⟨isStack, rfl, isSample⟩⟩

/-- Walking inside of a definition gives the stack back once the name is taken off. -/
theorem inside {name : String} {inner : Walk α}
    (yields : Yields definitions (name :: expanding) inner value) :
    Yields definitions expanding
      (do
        push name
        let value ← inner
        pop
        return value)
      value := by
  intro before
  obtain ⟨calls, ran, proper⟩ := yields before
  refine ⟨calls, ?_, proper⟩
  have pushed : (push name).run ⟨expanding, before⟩ = some ((), ⟨name :: expanding, before⟩) := rfl
  rw [StateT.run_bind, pushed, Option.bind_eq_bind, Option.bind_some, StateT.run_bind, ran]
  rfl

end Yields

/-! ## Ends and samples -/

theorem within_of_deep {schema : Schema} (deep : depthLimit < expanding.length) :
    within definitions expanding schema = .null :=
  if_pos deep

theorem within_of_shallow {schema : Schema} (shallow : expanding.length ≤ depthLimit) :
    within definitions expanding schema =
      fill (follow definitions (depthLimit - expanding.length) expanding) schema :=
  if_neg (Nat.not_lt.mpr shallow)

theorem within_eq_fill (shallow : expanding.length ≤ depthLimit) :
    within definitions expanding =
      fill (follow definitions (depthLimit - expanding.length) expanding) :=
  funext fun _ => within_of_shallow shallow

theorem fillProperties_eq_map (follow : String → Json) (properties : List SchemaProperty) :
    fillProperties follow properties =
      properties.map fun property => (property.name, fill follow property.schema) := by
  induction properties with
  | nil => rfl
  | cons property rest ih =>
      obtain ⟨name, schema, required⟩ := property
      rw [fillProperties, fillProperty, ih]
      rfl

theorem fillAll_eq (follow : String → Json) (merged : List (String × Json))
    (members : List Schema) :
    fillAll follow merged members = mergeSamples merged (members.map (fill follow)) := by
  induction members generalizing merged with
  | nil => rfl
  | cons member rest ih =>
      rw [fillAll, List.map_cons]
      cases fill follow member with
      | object added => exact ih (mergeMembers merged added)
      | null => exact ih merged
      | bool _ | number _ | string _ | array _ => simp only [mergeSamples, ih]

theorem follow_succ (levels : Nat) (pointer : String) :
    follow definitions (levels + 1) expanding pointer =
      match opened? definitions expanding pointer with
      | none => .null
      | some (name, target) => fill (follow definitions levels (name :: expanding)) target := by
  rw [follow, opened?]
  cases Naming.referenceName? pointer with
  | none => rfl
  | some name =>
      by_cases isOpen : name ∈ expanding
      · simp [isOpen]
      · cases found : definition? definitions name with
        | none => simp [found]
        | some target => simp [isOpen, found]

/-- The sample of a reference is that of the definition it opens, with one more name on the
stack. -/
theorem follow_eq_within (shallow : expanding.length ≤ depthLimit) (pointer : String) :
    follow definitions (depthLimit - expanding.length) expanding pointer =
      match opened? definitions expanding pointer with
      | none => .null
      | some (name, target) => within definitions (name :: expanding) target := by
  cases levels : depthLimit - expanding.length with
  | zero =>
      have deep (name : String) : depthLimit < (name :: expanding).length := by
        rw [List.length_cons]
        omega
      rw [follow]
      split
      · rfl
      · rw [within_of_deep (deep _)]
  | succ fewer =>
      have next (name : String) : (name :: expanding).length ≤ depthLimit := by
        rw [List.length_cons]
        omega
      have left (name : String) : depthLimit - (name :: expanding).length = fewer := by
        rw [List.length_cons]
        omega
      rw [follow_succ]
      split
      · rfl
      · rw [within_of_shallow (next _), left]

/-! ## Every walk ends -/

/-- It is enough that a walk ends which has some fuel. -/
theorem Ends.of_succ {α : Type} {walk : Nat → Walk α} {value : α}
    (ends : Ends definitions expanding (fun fuel => walk (fuel + 1)) value) :
    Ends definitions expanding walk value := by
  rw [Ends, ← Filter.map_add_atTop_eq_nat 1]
  exact Filter.eventually_map.mpr ends

/-- A walk that goes no further ends at once. -/
theorem Ends.of_forall {α : Type} {walk : Nat → Walk α} {value : α}
    (yields : ∀ fuel, Yields definitions expanding (walk (fuel + 1)) value) :
    Ends definitions expanding walk value :=
  .of_succ (Filter.Eventually.of_forall yields)

theorem ends_walk_of_deep (isStack : IsStack definitions expanding)
    (deep : depthLimit < expanding.length) (schema : Schema) :
    Ends definitions expanding (walk definitions · schema)
      (within definitions expanding schema) := by
  refine .of_forall fun fuel => ?_
  rw [walk, within_of_deep deep]
  refine .bind .stack (.bind ?_ (.bind (.record isStack (within_of_deep deep).symm) (.pure _)))
  rw [if_pos deep]
  exact .pure _

/-- A stack with room for one more definition, if the walk of that definition ends. -/
structure Opens (definitions : List NamedSchema) (expanding : List String) : Prop where
  stack : IsStack definitions expanding
  shallow : expanding.length ≤ depthLimit
  ends : ∀ pointer name target, opened? definitions expanding pointer = some (name, target) →
    Ends definitions (name :: expanding) (walk definitions · target)
      (within definitions (name :: expanding) target)

mutual

/-- A walk ends if the walks of the definitions it opens do. -/
theorem Opens.walk (opens : Opens definitions expanding) : (schema : Schema) →
    Ends definitions expanding (walk definitions · schema) (within definitions expanding schema)
  | .mk kind description? format? => by
    have isSample : within definitions expanding (.mk kind description? format?) =
        fillKind (follow definitions (depthLimit - expanding.length) expanding) format? kind := by
      rw [within_of_shallow opens.shallow, fill]
    refine .of_succ ?_
    filter_upwards [opens.walkKind format? kind] with fuel inner
    rw [Sample.walk, isSample]
    refine .bind .stack (.bind ?_ (.bind (.record opens.stack isSample.symm) (.pure _)))
    rw [if_neg (Nat.not_lt.mpr opens.shallow)]
    exact inner

theorem Opens.walkKind (opens : Opens definitions expanding) (format? : Option String) :
    (kind : SchemaKind) → Ends definitions expanding (walkKind definitions · format? kind)
      (fillKind (follow definitions (depthLimit - expanding.length) expanding) format? kind)
  | .reference pointer => by
    rw [fillKind, follow_eq_within opens.shallow]
    cases isOpened : opened? definitions expanding pointer with
    | none =>
        refine .of_forall fun fuel => ?_
        rw [Sample.walkKind]
        refine .bind .stack ?_
        rw [isOpened]
        exact .pure _
    | some definition =>
        refine .of_succ ?_
        filter_upwards [opens.ends pointer definition.1 definition.2 isOpened] with fuel inner
        rw [Sample.walkKind]
        refine .bind .stack ?_
        rw [isOpened]
        exact .inside inner
  | .allOf members => by
    rw [fillKind, fillAll_eq, ← within_eq_fill opens.shallow]
    refine .of_succ ?_
    filter_upwards [opens.walkAll [] members] with fuel inner
    rwa [Sample.walkKind]
  | .oneOf (member :: _) => by
    rw [fillKind, ← within_eq_fill opens.shallow]
    refine .of_succ ?_
    filter_upwards [opens.walk member] with fuel inner
    rwa [Sample.walkKind]
  | .array (some items) => by
    rw [fillKind, ← within_eq_fill opens.shallow]
    refine .of_succ ?_
    filter_upwards [opens.walk items] with fuel inner
    rw [Sample.walkKind]
    exact .bind inner (.pure _)
  | .object [] (some value) => by
    rw [fillKind, ← within_eq_fill opens.shallow]
    refine .of_succ ?_
    filter_upwards [opens.walk value] with fuel inner
    rw [Sample.walkKind]
    exact .bind inner (.pure _)
  | .object (first :: rest) _ => by
    have properties := opens.walkProperties [] (first :: rest)
    rw [within_eq_fill opens.shallow, ← fillProperties_eq_map, fillProperties] at properties
    rw [fillKind]
    refine .of_succ ?_
    filter_upwards [properties] with fuel inner
    rwa [Sample.walkKind]
  | .oneOf [] | .untyped | .array none | .object [] none | .literals _ | .tags _
  | .primitive _ => by
    refine .of_forall fun fuel => ?_
    rw [Sample.walkKind, fillKind]
    exact .pure _

/-- Members are sampled one by one, each on its own. -/
theorem Opens.walkAll (opens : Opens definitions expanding) (merged : List (String × Json)) :
    (members : List Schema) → Ends definitions expanding (walkAll definitions · merged members)
      (mergeSamples merged (members.map (within definitions expanding)))
  | [] => by
    refine .of_forall fun fuel => ?_
    rw [Sample.walkAll]
    exact .pure _
  | member :: rest => by
    have first := opens.walk member
    rw [List.map_cons]
    refine .of_succ ?_
    cases sample : within definitions expanding member with
    | object added =>
        filter_upwards [first, opens.walkAll (mergeMembers merged added) rest] with fuel one others
        rw [Sample.walkAll]
        rw [sample] at one
        exact .bind one others
    | null =>
        filter_upwards [first, opens.walkAll merged rest] with fuel one others
        rw [Sample.walkAll]
        rw [sample] at one
        exact .bind one others
    | bool _ | number _ | string _ | array _ =>
        filter_upwards [first, opens.walkAll merged rest] with fuel one others
        rw [Sample.walkAll]
        rw [sample] at one
        exact .bind one (.ite (.pure _) others)

/-- Properties are sampled one by one, each on its own. -/
theorem Opens.walkProperties (opens : Opens definitions expanding)
    (filled : List (String × Json)) : (properties : List SchemaProperty) →
    Ends definitions expanding (walkProperties definitions · filled properties)
      (.object (mergeMembers filled (properties.map fun property =>
        (property.name, within definitions expanding property.schema))))
  | [] => by
    refine .of_forall fun fuel => ?_
    rw [Sample.walkProperties]
    exact .pure _
  | .mk name schema _ :: rest => by
    rw [List.map_cons]
    refine .of_succ ?_
    filter_upwards [opens.walk schema, opens.walkProperties _ rest] with fuel one others
    rw [Sample.walkProperties]
    exact .bind one others

end

/-- From every proper stack the walk ends, with the sample of its schema. -/
theorem ends_walk (isStack : IsStack definitions expanding) (schema : Schema) :
    Ends definitions expanding (walk definitions · schema)
      (within definitions expanding schema) := by
  induction levels : depthLimit + 1 - expanding.length generalizing expanding schema with
  | zero => exact ends_walk_of_deep isStack (by omega) schema
  | succ fewer ih =>
      have shallow : expanding.length ≤ depthLimit := by omega
      refine Opens.walk ⟨isStack, shallow, fun pointer name target isOpened => ?_⟩ schema
      refine ih (isStack.opened shallow isOpened) target ?_
      rw [List.length_cons]
      omega

theorem IsStack.opens (isStack : IsStack definitions expanding)
    (shallow : expanding.length ≤ depthLimit) : Opens definitions expanding :=
  ⟨isStack, shallow, fun _ _ target isOpened =>
    ends_walk (isStack.opened shallow isOpened) target⟩

/-- Sampling ends on every schema over any definitions, however they refer to each other: with fuel
enough it is never stuck, and yields the sample. Every call begins with a stack of distinct
definitions, nine at most, and gives it back as it was. From such a stack the properties of an
object and the members of an `allOf` get the samples that each of them gets alone. -/
theorem walk_ends_with_sample (definitions : List NamedSchema) (schema : Schema) :
    (∃ enough, ∀ fuel, enough ≤ fuel → ∃ calls,
      (walk definitions fuel schema).run {} = some (schema.sample definitions, ⟨[], calls⟩) ∧
        ∀ call ∈ calls, call.IsProper definitions) ∧
    ∀ expanding, IsStack definitions expanding → expanding.length ≤ depthLimit →
      (∀ properties, Ends definitions expanding (walkProperties definitions · [] properties)
        (.object (mergeMembers [] (properties.map fun property =>
          (property.name, within definitions expanding property.schema))))) ∧
      ∀ members, Ends definitions expanding (walkAll definitions · [] members)
        (mergeSamples [] (members.map (within definitions expanding))) := by
  constructor
  · obtain ⟨enough, ends⟩ := Filter.eventually_atTop.mp (ends_walk (.nil definitions) schema)
    refine ⟨enough, fun fuel isEnough => ?_⟩
    obtain ⟨calls, ran, proper⟩ := ends fuel isEnough []
    rw [List.append_nil] at ran
    exact ⟨calls, ran, proper⟩
  · intro expanding isStack shallow
    have opens := isStack.opens shallow
    exact ⟨opens.walkProperties [], opens.walkAll []⟩

/-! ## A circle of definitions -/

/-- A schema that only points to another one. -/
def pointsTo (pointer : String) : Schema := .mk (.reference pointer) none none

/-- A node that points to itself and to its owner. -/
def nodeProperties : List SchemaProperty :=
  [.mk "next" (pointsTo "#/definitions/Node") false,
    .mk "owner" (pointsTo "#/definitions/Owner") true]

/-- Definitions that refer to themselves and to each other. -/
def cycle : List NamedSchema :=
  let nodes : Schema := .mk (.array (some (pointsTo "#/definitions/Node"))) none none
  [⟨"Node", .mk (.object nodeProperties none) none none⟩,
    ⟨"Owner", .mk (.object [.mk "nodes" nodes true] none) none none⟩]

/-- The sample of a node: the circle is cut where it comes back to the node. -/
def nodeSample : Json :=
  .object [("next", .null), ("owner", .object [("nodes", .array [])])]

/-- Inside of a node, the node is null and its owner has no nodes. -/
theorem follow_cycle :
    follow cycle 7 ["Node"] "#/definitions/Node" = .null ∧
      follow cycle 7 ["Node"] "#/definitions/Owner" = .object [("nodes", .array [])] ∧
      follow cycle 8 [] "#/definitions/Node" = nodeSample := by
  have node : Naming.referenceName? "#/definitions/Node" = some "Node" := by decide +kernel
  have owner : Naming.referenceName? "#/definitions/Owner" = some "Owner" := by decide +kernel
  have inOwner : follow cycle 6 ["Owner", "Node"] "#/definitions/Node" = .null := by
    rw [follow, node]
    rfl
  have inNode : follow cycle 7 ["Node"] "#/definitions/Node" = .null := by
    rw [follow, node]
    rfl
  have ownerSample : follow cycle 7 ["Node"] "#/definitions/Owner" =
      .object [("nodes", .array [])] := by
    rw [follow, owner]
    change fill (follow cycle 6 ["Owner", "Node"]) _ = _
    simp only [fill, fillKind, fillProperty, fillProperties, pointsTo, inOwner]
    rfl
  refine ⟨inNode, ownerSample, ?_⟩
  rw [follow, node]
  change fill (follow cycle 7 ["Node"]) (.mk (.object nodeProperties none) none none) = _
  simp only [nodeProperties, fill, fillKind, fillProperty, fillProperties, pointsTo, inNode,
    ownerSample]
  rfl

theorem walk_ends_with_sample_cycle :
    (∃ enough, ∀ fuel, enough ≤ fuel → ∃ calls,
      (walk cycle fuel (pointsTo "#/definitions/Node")).run {} =
          some (nodeSample, ⟨[], calls⟩) ∧
        ∀ call ∈ calls, call.IsProper cycle) ∧
    IsStack cycle ["Node"] ∧
    Ends cycle ["Node"] (walkProperties cycle · [] nodeProperties) nodeSample := by
  obtain ⟨inNode, ownerSample, sample⟩ := follow_cycle
  have isStack : IsStack cycle ["Node"] := ⟨by decide, by decide, by decide⟩
  obtain ⟨ends, alone⟩ := walk_ends_with_sample cycle (pointsTo "#/definitions/Node")
  have properties := (alone ["Node"] isStack (by decide)).1 nodeProperties
  refine ⟨?_, isStack, ?_⟩
  · rw [Schema.sample, pointsTo, fill, fillKind, depthLimit, sample] at ends
    exact ends
  · have levels : depthLimit - ["Node"].length = 7 := rfl
    rw [within_eq_fill (by decide), levels] at properties
    simp only [nodeProperties, List.map, SchemaProperty.schema, pointsTo, fill, fillKind,
      inNode, ownerSample] at properties
    exact properties

end TypedClient.Sample

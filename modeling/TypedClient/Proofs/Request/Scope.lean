/-
# Arguments that a request reads

The parameter list of a request function, the expressions that take its first argument apart and
the template literal that takes its second apart are written in separate places. They fit together:
whatever is read is declared.
-/

import TypedClient.Proofs.Request.Records
import TypedClient.Proofs.Script.Reading

namespace TypedClient

/-! ## Parameter lists -/

namespace Request

/-- An argument in a parameter list. -/
structure DeclaredArgument where
  name : String
  /-- Whether a question mark after the name says that it may be left out. -/
  isMarked : Bool := false
  /-- The text of its type. -/
  type? : Option String := none
  /-- What it is if it is left out. -/
  default? : Option String := none

/-- The text of an argument in a parameter list. -/
def DeclaredArgument.text (argument : DeclaredArgument) : String :=
  argument.name ++ (if argument.isMarked then "?" else "") ++
    (argument.type?.map (": " ++ ·)).getD "" ++ (argument.default?.map (" = " ++ ·)).getD ""

/-- The text of a parameter list. -/
def listText (declared : List DeclaredArgument) : String :=
  "(" ++ ", ".intercalate (declared.map (·.text)) ++ ")"

namespace Arguments

open RequestParameters (firstName pathName)

/-- A type in a parameter list, which plain code has none of. -/
def typeText? (type : TypeExpr) : Language → Option String
  | .typeScript => some (type.render .typeScript)
  | .javaScript => none

/-- The first argument that a parameter list declares. In front of a second one it is never marked:
its type says instead that it may be left out. -/
def declaredFirst (arguments : Arguments) (language : Language) : List DeclaredArgument :=
  match arguments.first?, arguments.path? with
  | none, none => []
  | none, some _ =>
    [{ name := firstName
       type? := typeText? (.record []) language
       default? := some "\x7b\x7d" }]
  | some first, path? =>
    let type? := typeText? first.type language
    if first.defaultEmpty then [{ name := firstName, type?, default? := some "\x7b\x7d" }]
    else if first.optional && path?.isSome then
      [{ name := firstName, type? := type?.map (· ++ " | undefined") }]
    else [{ name := firstName, isMarked := first.optional && type?.isSome, type? }]

/-- The second argument that a parameter list declares. -/
def declaredPath (arguments : Arguments) (language : Language) : List DeclaredArgument :=
  (arguments.path?.map fun type =>
    { name := pathName, type? := typeText? type language : DeclaredArgument }).toList

/-- The arguments that a parameter list declares. -/
def declared (arguments : Arguments) (language : Language) : List DeclaredArgument :=
  arguments.declaredFirst language ++ arguments.declaredPath language

variable {arguments : Arguments} {language : Language}

theorem text_declaredFirst :
    (arguments.declaredFirst language).map (·.text) = arguments.firstParameter language := by
  obtain ⟨first?, path?⟩ := arguments
  cases language <;> cases first? with
  | none => cases path? <;> rfl
  | some first =>
      obtain ⟨type, defaultEmpty, isOptional⟩ := first
      cases path? <;> cases defaultEmpty <;> cases isOptional <;>
        simp [declaredFirst, firstParameter, DeclaredArgument.text, typeText?, firstName,
          ← String.append_assoc]

theorem text_declaredPath :
    (arguments.declaredPath language).map (·.text) = arguments.pathParameter language := by
  obtain ⟨first?, path?⟩ := arguments
  cases language <;> cases path? <;>
    simp [declaredPath, pathParameter, DeclaredArgument.text, typeText?, ← String.append_assoc]

/-- A parameter list is written as it is declared. -/
theorem listText_declared (arguments : Arguments) (language : Language) :
    listText (arguments.declared language) = arguments.signature language := by
  rw [listText, declared, List.map_append, text_declaredFirst, text_declaredPath, signature]

/-- The first argument is declared with its type, to which a parameter list may add that it can be
left out. -/
theorem exists_mem_declared_of_first? {first : FirstArgument}
    (isFirst : arguments.first? = some first) :
    ∃ argument ∈ arguments.declared language, argument.name = firstName ∧
      ∃ added ∈ ["", " | undefined"],
        argument.type? = (typeText? first.type language).map (· ++ added) := by
  have asItIs : typeText? first.type language = (typeText? first.type language).map (· ++ "") := by
    cases language <;> simp [typeText?]
  unfold declared declaredFirst
  rw [isFirst]
  simp only
  split
  · exact ⟨_, List.mem_cons_self, rfl, "", by decide, asItIs⟩
  · split
    · exact ⟨_, List.mem_cons_self, rfl, " | undefined", by decide, rfl⟩
    · exact ⟨_, List.mem_cons_self, rfl, "", by decide, asItIs⟩

/-- The second argument is declared with its type. -/
theorem mem_declared_of_path? {type : TypeExpr} (isPath : arguments.path? = some type) :
    { name := pathName, type? := typeText? type language } ∈ arguments.declared language := by
  rw [declared, declaredPath, isPath]
  exact List.mem_append_right _ List.mem_cons_self

/-- The first argument is marked only if no second one follows. -/
theorem declaredFirst_of_isMarked {argument : DeclaredArgument}
    (member : argument ∈ arguments.declaredFirst language) (isMarked : argument.isMarked = true) :
    arguments.declaredFirst language = [argument] ∧ arguments.path? = none := by
  unfold declaredFirst at member ⊢
  split at member
  · cases member
  · cases List.mem_singleton.mp member
    cases isMarked
  · rename_i first isFirst
    simp only at member ⊢
    split at member
    · cases List.mem_singleton.mp member
      cases isMarked
    · rename_i noDefault
      split at member
      · cases List.mem_singleton.mp member
        cases isMarked
      · rename_i notBoth
        rw [if_neg noDefault, if_neg notBoth]
        rw [List.mem_singleton] at member
        subst member
        have isOptional : first.optional = true := (Bool.and_eq_true_iff.mp isMarked).1
        rw [isOptional, Bool.true_and, Bool.not_eq_true, Option.isSome_eq_false_iff,
          Option.isNone_iff_eq_none] at notBoth
        exact ⟨rfl, notBoth⟩

/-- A marked argument is the only one. -/
theorem declared_eq_singleton_of_isMarked {argument : DeclaredArgument}
    (member : argument ∈ arguments.declared language) (isMarked : argument.isMarked = true) :
    arguments.declared language = [argument] := by
  rcases List.mem_append.mp member with isFirst | isPath
  · obtain ⟨alone, noPath⟩ := declaredFirst_of_isMarked isFirst isMarked
    rw [declared, alone, declaredPath, noPath]
    rfl
  · obtain ⟨type, -, rfl⟩ := Option.map_eq_some_iff.mp (Option.mem_toList.mp isPath)
    cases isMarked

/-! ## Readings -/

/-- What is read of the first argument is there: the argument itself, or a field of its record. -/
def Offers (arguments : Arguments) : Script.Reading → Prop
  | .whole => ∃ first, arguments.first? = some first
  | .property key => ∃ first fields, arguments.first? = some first ∧
      first.type = .record fields ∧ key ∈ fields.map (·.name)

/-- An expression is made of nothing but readings of the first argument that are there. -/
def Covers (arguments : Arguments) (expression : String) : Prop :=
  ∃ readings, Script.readings? firstName expression = some readings ∧
    ∀ reading ∈ readings, arguments.Offers reading

end Arguments

end Request

/-- The expressions that a payload is taken from. -/
def Payload.expressions : Payload → List String
  | .none => []
  | .json access => [access]
  | .form fields => fields.map (·.access)

/-- The expressions that take the first argument apart. -/
def RequestContext.expressions (context : RequestContext) : List String :=
  context.query?.toList ++ context.headers.map (·.2) ++ context.payload.expressions

namespace RequestParameters

open Request (Arguments)

variable {parameters : RequestParameters} {arguments : Arguments} {p : ResolvedParameter}

theorem isVariable_firstName : Script.IsVariable firstName :=
  ⟨List.all_eq_true.mp (by decide), by decide⟩

theorem covers_firstName {first : FirstArgument} (isFirst : arguments.first? = some first) :
    arguments.Covers firstName :=
  ⟨_, Script.readings?_name isVariable_firstName, List.forall_mem_singleton.mpr ⟨first, isFirst⟩⟩

theorem offers_of_mem (isFirst : arguments.first? = parameters.firstArgument?)
    (noWhole : parameters.wholeBody? = none) (member : p ∈ parameters.fieldParameters) :
    arguments.Offers (.property p.parameter.name) := by
  obtain ⟨first, fields, found, isRecord, isField⟩ := hasField_of_mem noWhole member
  exact ⟨first, fields, isFirst.trans found, isRecord, List.mem_map_of_mem isField⟩

theorem covers_access (isFirst : arguments.first? = parameters.firstArgument?)
    (noWhole : parameters.wholeBody? = none) (member : p ∈ parameters.fieldParameters) :
    arguments.Covers (access p) :=
  ⟨_, Script.readings?_propertyAccess isVariable_firstName p.parameter.name,
    List.forall_mem_singleton.mpr (offers_of_mem isFirst noWhole member)⟩

/-- The query object is the argument itself or an object of fields. -/
theorem covers_query? (isFirst : arguments.first? = parameters.firstArgument?) :
    ∀ query ∈ parameters.query?, arguments.Covers query := by
  intro query isQuery
  unfold query? at isQuery
  split at isQuery
  · cases isQuery
  · rename_i someQuery
    have nonempty : parameters.query ≠ [] := by simpa using someQuery
    obtain ⟨p, inQuery⟩ := List.exists_mem_of_ne_nil _ nonempty
    have grouped := mem_grouped_of_mem_query inQuery
    have noWhole := wholeBody?_eq_none grouped
    split at isQuery
    · cases isQuery
      obtain ⟨first, found, -⟩ := firstArgument?_of_mem noWhole (List.mem_append_left _ grouped)
      exact covers_firstName (isFirst.trans found)
    · cases isQuery
      have someKey : parameters.query.map (·.parameter.name) ≠ [] := by simpa using nonempty
      have read := Script.readings?_propertyObject isVariable_firstName someKey
      rw [Script.propertyObject, List.map_map] at read
      refine ⟨_, read, ?_⟩
      simp only [List.forall_mem_map]
      intro q member
      exact offers_of_mem isFirst noWhole
        (List.mem_append_left _ (mem_grouped_of_mem_query member))

theorem covers_payload (isFirst : arguments.first? = parameters.firstArgument?) :
    ∀ expression ∈ parameters.payload.expressions, arguments.Covers expression := by
  cases isWhole : parameters.wholeBody? with
  | some body =>
      have found : ∃ first, parameters.firstArgument? = some first := by
        rw [firstArgument?, isWhole]
        exact ⟨_, rfl⟩
      obtain ⟨first, found⟩ := found
      rw [payload, isWhole]
      exact List.forall_mem_singleton.mpr (covers_firstName (isFirst.trans found))
  | none =>
      rw [payload, isWhole]
      simp only
      split
      · split
        · rename_i body isBody
          have member : body ∈ parameters.fieldParameters :=
            mem_fieldParameters.mpr (Or.inr (Or.inr (Or.inr isBody)))
          exact List.forall_mem_singleton.mpr (covers_access isFirst isWhole member)
        · exact List.forall_mem_nil _
      · rw [Payload.expressions, List.map_map, List.forall_mem_map]
        intro p member
        exact covers_access isFirst isWhole
          (mem_fieldParameters.mpr (Or.inr (Or.inr (Or.inl member))))

/-- Only an argument that is all query is passed on as the query object. -/
theorem exists_record_of_query?_eq_firstName (whole : parameters.query? = some firstName) :
    ∃ first, parameters.firstArgument? = some first ∧
      first.type = .record (parameters.query.map (·.field)) := by
  unfold query? at whole
  split at whole
  · cases whole
  · rename_i someQuery
    split at whole
    · rename_i all
      have nonempty : parameters.query ≠ [] := by simpa using someQuery
      obtain ⟨p, inQuery⟩ := List.exists_mem_of_ne_nil _ nonempty
      have grouped := mem_grouped_of_mem_query inQuery
      obtain ⟨first, found, isRecord⟩ :=
        firstArgument?_of_mem (wholeBody?_eq_none grouped) (List.mem_append_left _ grouped)
      rw [fieldParameters_eq_query all] at isRecord
      exact ⟨first, found, isRecord⟩
    · -- An object begins with a brace.
      have text := congrArg String.toList (Option.some.inj whole)
      simp [firstName] at text

end RequestParameters

namespace Operation

open RequestParameters Request

variable {operation : Operation} {resolver : TypeResolver} {config : CompileConfig}

/-- Every expression that takes the first argument apart reads what is there. -/
theorem covers_of_mem_expressions :
    ∀ expression ∈ (operation.requestContext resolver config).expressions,
      (operation.arguments resolver).Covers expression := by
  intro expression member
  have isFirst : (operation.arguments resolver).first? =
      (ofOperation resolver operation).firstArgument? := rfl
  rw [RequestContext.expressions, List.mem_append, List.mem_append] at member
  rcases member with (isQuery | isHeader) | isPayload
  · exact covers_query? isFirst expression (Option.mem_toList.mp isQuery)
  · obtain ⟨pair, isPair, rfl⟩ := List.mem_map.mp isHeader
    obtain ⟨p, inHeaders, rfl⟩ := List.mem_map.mp isPair
    have grouped : p ∈ (ofOperation resolver operation).grouped :=
      List.mem_append_left _ (List.mem_append_right _ inHeaders)
    exact covers_access isFirst (wholeBody?_eq_none grouped) (List.mem_append_left _ grouped)
  · exact covers_payload isFirst expression isPayload

/-- Every field of an argument that is the query object is a parameter of the query. -/
theorem isQuery_of_query?_eq_firstName
    (whole : (operation.requestContext resolver config).query? = some firstName) :
    ∃ first fields, (operation.arguments resolver).first? = some first ∧
      first.type = .record fields ∧ ∀ field ∈ fields, ∃ p ∈ operation.parameters,
        p.location = .query ∧ p.name = field.name := by
  obtain ⟨first, found, isRecord⟩ := exists_record_of_query?_eq_firstName whole
  refine ⟨first, _, found, isRecord, List.forall_mem_map.mpr fun q inQuery => ?_⟩
  obtain ⟨isQuery, -, before, after, parts, -⟩ := exists_of_mem_channel (by decide) inQuery
  exact ⟨q.parameter, parts ▸ List.mem_append_right before List.mem_cons_self, isQuery, rfl⟩

/-- Every placeholder of the path is a field of the second argument. -/
theorem exists_field_of_placeholder {name : String}
    (isPlaceholder : .placeholder name ∈ operation.url.parts) :
    ∃ fields, (operation.arguments resolver).path? = some (.record fields) ∧
      name ∈ fields.map (·.name) := by
  have member : name ∈ operation.url.names :=
    List.mem_eraseDups.mpr (List.mem_filterMap.mpr ⟨_, isPlaceholder, rfl⟩)
  let fields := operation.url.names.map (ofOperation resolver operation).placeholderField
  have isField : name ∈ fields.map (·.name) := by
    rw [names_map_placeholderField]
    exact member
  have nonempty : fields ≠ [] := by
    intro isEmpty
    rw [isEmpty] at isField
    cases isField
  have isRecord : (ofOperation resolver operation).pathType? operation.url =
      some (.record fields) := by
    unfold pathType?
    split
    · rename_i isEmpty
      exact absurd isEmpty nonempty
    · rfl
  exact ⟨fields, isRecord, isField⟩

end Operation

/-! ## Operations of documents -/

namespace Document

open RequestParameters Request

/-- A request function of a document reads only what its parameter list declares. The list is that
of its arguments, and none that is marked precedes another. What is read of the first argument is a
field of its record or the argument itself, which is the query object only if all its fields are
parameters of the query. Every placeholder of the URL is a field of the second argument's record. No
record has a field twice. -/
theorem reads_declared {root : Json} (isRoot : root.HasDistinctKeys) {document : Document}
    (read : Document.ofJson? root = some document) {operation : Operation}
    (member : operation ∈ document.operations) (resolver : TypeResolver)
    (config : CompileConfig) :
    let context := operation.requestContext resolver config
    let arguments := operation.arguments resolver
    let declared := arguments.declared config.language
    context.signature = listText declared ∧
      (∀ before argument after, declared = before ++ argument :: after →
        argument.isMarked = true → after = []) ∧
      (∀ first ∈ arguments.first?, ∃ argument ∈ declared, argument.name = firstName ∧
        ∃ added ∈ ["", " | undefined"], argument.type? =
          (Arguments.typeText? first.type config.language).map (· ++ added)) ∧
      (∀ expression ∈ context.expressions, arguments.Covers expression) ∧
      (context.query? = some firstName → ∃ first fields, arguments.first? = some first ∧
        first.type = .record fields ∧ ∀ field ∈ fields, ∃ p ∈ operation.parameters,
          p.location = .query ∧ p.name = field.name) ∧
      context.url = operation.url.toTemplateLiteral pathName ∧
      (∀ name, .placeholder name ∈ operation.url.parts →
        ∃ fields, arguments.path? = some (.record fields) ∧ name ∈ fields.map (·.name) ∧
          { name := pathName, type? := Arguments.typeText? (.record fields) config.language } ∈
            declared) ∧
      ∀ type ∈ operation.writtenTypes resolver, type.IsDistinct := by
  intro context arguments declared
  refine ⟨(Arguments.listText_declared arguments config.language).symm, ?_,
    fun first => Arguments.exists_mem_declared_of_first?, Operation.covers_of_mem_expressions,
    Operation.isQuery_of_query?_eq_firstName, rfl, ?_, ?_⟩
  · intro before argument after parts isMarked
    have alone := Arguments.declared_eq_singleton_of_isMarked
      (show argument ∈ declared from parts ▸ List.mem_append_right _ List.mem_cons_self) isMarked
    have lengths := congrArg List.length (parts.symm.trans alone)
    simp only [List.length_append, List.length_cons, List.length_nil] at lengths
    exact List.eq_nil_of_length_eq_zero (by omega)
  · intro name isPlaceholder
    obtain ⟨fields, isRecord, isField⟩ := Operation.exists_field_of_placeholder isPlaceholder
    exact ⟨fields, isRecord, isField, Arguments.mem_declared_of_path? isRecord⟩
  · exact Operation.isDistinct_of_mem_writtenTypes (isDistinct_of_mem_operations isRoot read
      operation member) resolver

/-- What is said about an operation with a placeholder that is not declared. -/
def toyJson : Json :=
  .object [("parameters", .array [parameterJson "petId" "path", parameterJson "page" "query",
    parameterJson "X-Token" "header"]), ("requestBody", orderBody)]

/-- Its path. -/
def toyPath : String := "/pets/\x7bpetId\x7d/toys/\x7btoy\x7d"

/-- A document with this operation alone. -/
def toyRoot : Json :=
  .object [("paths", .object [(toyPath, .object [("put", toyJson)])])]

/-- The operation as it is read. -/
def toy : Operation := Reader.operation toyRoot toyPath [] .put toyJson

theorem hasDistinctKeys_parameterJson (name location : String) :
    (parameterJson name location).HasDistinctKeys :=
  .object (by simp) (by simp [Json.HasDistinctKeys.string])

theorem hasDistinctKeys_object_singleton {key : String} {value : Json}
    (distinct : value.HasDistinctKeys) : (Json.object [(key, value)]).HasDistinctKeys :=
  .object (List.nodup_singleton key) (List.forall_mem_singleton.mpr distinct)

theorem hasDistinctKeys_toyRoot : toyRoot.HasDistinctKeys := by
  refine hasDistinctKeys_object_singleton (hasDistinctKeys_object_singleton
    (hasDistinctKeys_object_singleton (.object (by decide) ?_)))
  have parameters : (Json.array [parameterJson "petId" "path", parameterJson "page" "query",
      parameterJson "X-Token" "header"]).HasDistinctKeys :=
    .array (by simp [hasDistinctKeys_parameterJson])
  have body : orderBody.HasDistinctKeys :=
    hasDistinctKeys_object_singleton (hasDistinctKeys_object_singleton
      (hasDistinctKeys_object_singleton (hasDistinctKeys_object_singleton (.string _))))
  simp [parameters, body]

/-- The expressions of this operation read what is there, and the placeholder that is not declared
is a field as well. -/
theorem reads_declared_toy :
    toyRoot.HasDistinctKeys ∧
      (toy.requestContext {} {}).expressions =
        ["\x7b page: params.page \x7d", "params[\"X-Token\"]", "params.body"] ∧
      (∀ expression ∈ (toy.requestContext {} {}).expressions,
        (toy.arguments {}).Covers expression) ∧
      ∃ fields, (toy.arguments {}).path? = some (.record fields) ∧ "toy" ∈ fields.map (·.name) := by
  obtain ⟨document, read, member⟩ : ∃ document, Document.ofJson? toyRoot = some document ∧
      toy ∈ document.operations := ⟨_, rfl, List.mem_cons_self⟩
  obtain ⟨-, -, -, covers, -, -, placeholders, -⟩ :=
    reads_declared hasDistinctKeys_toyRoot read member {} {}
  obtain ⟨fields, isRecord, isField, -⟩ := placeholders "toy" (by decide +kernel)
  exact ⟨hasDistinctKeys_toyRoot, by decide +kernel, covers, fields, isRecord, isField⟩

end Document

end TypedClient

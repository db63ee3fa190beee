/-
# What a request forwards

The parameters of an operation go into a request by channels: the query, the headers, the form and
the payload. Parameters outside the path are fields of one argument, so of several with one name
only the first is kept. Of several payloads the first is, and only if there is no form. All that is
kept is forwarded in its channel, as it is read off the argument.
-/

import TypedClient.Document.Basic
import TypedClient.Request.Function

namespace TypedClient

/-! ## Parameters that are kept -/

namespace Parameter

/-- A parameter outside the path that is the first of its name there. -/
def IsFirst (parameters : List Parameter) (p : Parameter) : Prop :=
  p.location ≠ .path ∧ ∃ before after, parameters = before ++ p :: after ∧
    ∀ q ∈ before, q.location ≠ .path → q.name ≠ p.name

/-- A parameter that is the payload: no parameter before it is one, and none goes into a form. -/
structure IsPayload (parameters : List Parameter) (p : Parameter) : Prop where
  isBody : p.location = .body
  isFirst : ∃ before after, parameters = before ++ p :: after ∧
    (∀ q ∈ before, q.location ≠ .path → q.name ≠ p.name) ∧
    ∀ q, IsFirst before q → q.location ≠ .body
  noForm : ∀ q, IsFirst parameters q → q.location ≠ .form

end Parameter

namespace RequestParameters

open Parameter (IsFirst)

/-- The key under which the name of a parameter is taken in its argument. -/
def argumentKey (p : Parameter) : String × Bool :=
  (p.name, p.location == .path)

theorem argumentKey_ne_iff {p q : Parameter} (outside : p.location ≠ .path) :
    argumentKey q ≠ argumentKey p ↔ (q.location ≠ .path → q.name ≠ p.name) := by
  have isOutside : (p.location == .path) = false := beq_eq_false_iff_ne.mpr outside
  rw [Ne, argumentKey, argumentKey, Prod.mk.injEq, isOutside, beq_eq_false_iff_ne, not_and,
    imp_not_comm]

theorem keepFirst_cons_of_mem {taken : List (String × Bool)} {p : Parameter}
    (isTaken : argumentKey p ∈ taken) (rest : List Parameter) :
    keepFirst taken (p :: rest) = keepFirst taken rest := by
  rw [keepFirst]
  exact if_pos (List.contains_iff_mem.mpr isTaken)

theorem keepFirst_cons_of_notMem {taken : List (String × Bool)} {p : Parameter}
    (isNew : argumentKey p ∉ taken) (rest : List Parameter) :
    keepFirst taken (p :: rest) = p :: keepFirst (argumentKey p :: taken) rest := by
  rw [keepFirst]
  exact if_neg fun isTaken => isNew (List.contains_iff_mem.mp isTaken)

/-- A parameter whose name no earlier one takes is kept where it stands. -/
theorem exists_keepFirst_split {taken : List (String × Bool)} {before : List Parameter}
    {p : Parameter} (isNew : argumentKey p ∉ taken)
    (areOthers : ∀ q ∈ before, argumentKey q ≠ argumentKey p) (after : List Parameter) :
    ∃ rest, keepFirst taken (before ++ p :: after) = keepFirst taken before ++ p :: rest := by
  -- The names that are taken grow along the way, but none of them is the name of `p`.
  induction before generalizing taken with
  | nil => exact ⟨_, keepFirst_cons_of_notMem isNew after⟩
  | cons q before ih =>
      obtain ⟨isOther, areOthers⟩ := List.forall_mem_cons.mp areOthers
      rw [List.cons_append]
      by_cases isTaken : argumentKey q ∈ taken
      · rw [keepFirst_cons_of_mem isTaken, keepFirst_cons_of_mem isTaken]
        exact ih isNew areOthers
      · have stillNew : argumentKey p ∉ argumentKey q :: taken :=
          List.not_mem_cons_of_ne_of_not_mem isOther.symm isNew
        obtain ⟨rest, kept⟩ := ih stillNew areOthers
        rw [keepFirst_cons_of_notMem isTaken, keepFirst_cons_of_notMem isTaken, kept]
        exact ⟨rest, rfl⟩

/-- No earlier parameter takes the name of one that is kept. -/
theorem exists_split_of_mem_keepFirst {taken : List (String × Bool)} {parameters : List Parameter}
    {p : Parameter} (kept : p ∈ keepFirst taken parameters) :
    argumentKey p ∉ taken ∧ ∃ before after, parameters = before ++ p :: after ∧
      ∀ q ∈ before, argumentKey q ≠ argumentKey p := by
  induction parameters generalizing taken with
  | nil => cases kept
  | cons q parameters ih =>
      by_cases isTaken : argumentKey q ∈ taken
      · rw [keepFirst_cons_of_mem isTaken] at kept
        obtain ⟨isNew, before, after, rfl, areOthers⟩ := ih kept
        refine ⟨isNew, q :: before, after, rfl, List.forall_mem_cons.mpr ⟨?_, areOthers⟩⟩
        exact fun same => isNew (same ▸ isTaken)
      · rw [keepFirst_cons_of_notMem isTaken] at kept
        rcases List.mem_cons.mp kept with rfl | inRest
        · exact ⟨isTaken, [], parameters, rfl, List.forall_mem_nil _⟩
        · obtain ⟨isNew, before, after, rfl, areOthers⟩ := ih inRest
          rw [List.mem_cons, not_or] at isNew
          obtain ⟨isOther, isNew⟩ := isNew
          exact ⟨isNew, q :: before, after, rfl,
            List.forall_mem_cons.mpr ⟨Ne.symm isOther, areOthers⟩⟩

/-- The parameters outside the path that are kept are the first ones of their names. -/
theorem isFirst_of_mem_keepFirst {parameters : List Parameter} {p : Parameter}
    (kept : p ∈ keepFirst [] parameters) (outside : p.location ≠ .path) :
    IsFirst parameters p := by
  obtain ⟨-, before, after, parts, areOthers⟩ := exists_split_of_mem_keepFirst kept
  exact ⟨outside, before, after, parts, fun q member =>
    (argumentKey_ne_iff outside).mp (areOthers q member)⟩

theorem mem_keepFirst_of_isFirst {parameters : List Parameter} {p : Parameter}
    (isFirst : IsFirst parameters p) : p ∈ keepFirst [] parameters := by
  obtain ⟨outside, before, after, rfl, areOthers⟩ := isFirst
  obtain ⟨rest, kept⟩ := exists_keepFirst_split List.not_mem_nil
    (fun q member => (argumentKey_ne_iff outside).mpr (areOthers q member)) after
  rw [kept]
  exact List.mem_append_right _ List.mem_cons_self

/-! ## Channels -/

variable {resolver : TypeResolver} {operation : Operation}

/-- A parameter with the type that its schema resolves to. -/
def resolved (resolver : TypeResolver) (p : Parameter) : ResolvedParameter :=
  { parameter := p, resolved := resolver.resolve p.schema }

/-- The parameters of a location that are kept. -/
def channel (resolver : TypeResolver) (operation : Operation) (location : ParameterLocation) :
    List ResolvedParameter :=
  ((keepFirst [] operation.parameters).map (resolved resolver)).filter
    (·.parameter.location == location)

/-- A parameter that is kept stands in the channel of its location. -/
theorem mem_channel {p : Parameter} (isFirst : IsFirst operation.parameters p)
    {location : ParameterLocation} (isSent : p.location = location) :
    resolved resolver p ∈ channel resolver operation location := by
  rw [channel, List.mem_filter]
  exact ⟨List.mem_map_of_mem (mem_keepFirst_of_isFirst isFirst), beq_iff_eq.mpr isSent⟩

/-- What stands in a channel is a parameter of its location that is kept. -/
theorem exists_of_mem_channel {p : ResolvedParameter} {location : ParameterLocation}
    (outside : location ≠ .path) (member : p ∈ channel resolver operation location) :
    p.parameter.location = location ∧ IsFirst operation.parameters p.parameter := by
  obtain ⟨inKept, isSent⟩ := List.mem_filter.mp member
  obtain ⟨parameter, kept, rfl⟩ := List.mem_map.mp inKept
  have isLocation : parameter.location = location := beq_iff_eq.mp isSent
  exact ⟨isLocation, isFirst_of_mem_keepFirst kept (isLocation ▸ outside)⟩

/-- The payload is the first one that is kept. -/
theorem head?_channel_body {p : Parameter} (isPayload : p.IsPayload operation.parameters) :
    (channel resolver operation .body).head? = some (resolved resolver p) := by
  obtain ⟨isBody, ⟨before, after, parts, areOthers, noBody⟩, -⟩ := isPayload
  have outside : p.location ≠ .path := by
    rw [isBody]
    decide
  obtain ⟨rest, kept⟩ := exists_keepFirst_split List.not_mem_nil
    (fun q member => (argumentKey_ne_iff outside).mpr (areOthers q member)) after
  -- What is kept of the parameters before is kept of all of them, so it holds no payload.
  have noneBefore : ((keepFirst [] before).map (resolved resolver)).filter
      (·.parameter.location == .body) = [] := by
    rw [List.filter_eq_nil_iff]
    intro q member isSent
    obtain ⟨parameter, isKept, rfl⟩ := List.mem_map.mp member
    have isLocation : parameter.location = .body := beq_iff_eq.mp isSent
    have isFirst := isFirst_of_mem_keepFirst isKept (by rw [isLocation]; decide)
    exact noBody parameter isFirst isLocation
  have isSent : ((resolved resolver p).parameter.location == .body) = true :=
    beq_iff_eq.mpr isBody
  rw [channel, parts, kept, List.map_append, List.filter_append, noneBefore, List.nil_append,
    List.map_cons, List.filter_cons, if_pos isSent, List.head?_cons]

/-! ## Forwarding -/

/-- The first argument has a field for a parameter. -/
def HasField (first? : Option FirstArgument) (p : ResolvedParameter) : Prop :=
  ∃ first fields, first? = some first ∧ first.type = .record fields ∧ p.field ∈ fields

end RequestParameters

open RequestParameters

/-- A request forwards a parameter in its channel, as it is read off the first argument. -/
inductive RequestContext.Forwards (context : RequestContext) (first? : Option FirstArgument)
    (p : ResolvedParameter) : Prop
  /-- The query object is the argument itself, which has fields for nothing but the query. -/
  | wholeQuery (first : FirstArgument) (queries : List ResolvedParameter)
      (isFirst : first? = some first) (isRecord : first.type = .record (queries.map (·.field)))
      (areQueries : ∀ q ∈ queries, q.parameter.location = .query) (member : p ∈ queries)
      (query : context.query? = some firstName)
  | queryEntry (before after : List String) (isQuery : p.parameter.location = .query)
      (hasField : HasField first? p)
      (query : context.query? = some ("\x7b " ++ ", ".intercalate (before ++
        (Naming.propertyKey p.parameter.name ++ ": " ++ access p) :: after) ++ " \x7d"))
  | header (isHeader : p.parameter.location = .header) (hasField : HasField first? p)
      (pair : (p.parameter.name, access p) ∈ context.headers)
  | formField (fields : List FormField) (isForm : p.parameter.location = .form)
      (hasField : HasField first? p) (payload : context.payload = .form fields)
      (member : formField p ∈ fields)
  /-- The payload is the argument itself. -/
  | wholeBody (first : FirstArgument) (isBody : p.parameter.location = .body)
      (isFirst : first? = some first) (isType : first.type = p.resolved.type)
      (payload : context.payload = .json firstName)
  | body (isBody : p.parameter.location = .body) (hasField : HasField first? p)
      (payload : context.payload = .json (access p))

namespace RequestContext.Forwards

variable {context : RequestContext} {first? : Option FirstArgument} {p : ResolvedParameter}

/-- A header is forwarded by a pair of its name and its value. -/
theorem pair_of_isHeader (forwards : context.Forwards first? p)
    (isHeader : p.parameter.location = .header) :
    (p.parameter.name, access p) ∈ context.headers := by
  cases forwards with
  | header _ _ pair => exact pair
  | wholeQuery _ queries _ _ areQueries member =>
      cases isHeader.symm.trans (areQueries p member)
  | queryEntry _ _ isQuery => cases isHeader.symm.trans isQuery
  | formField _ isForm => cases isHeader.symm.trans isForm
  | wholeBody _ isBody => cases isHeader.symm.trans isBody
  | body isBody => cases isHeader.symm.trans isBody

/-- A body is forwarded by a payload that is the argument itself or read off it. -/
theorem json_of_isBody (forwards : context.Forwards first? p)
    (isBody : p.parameter.location = .body) :
    ∃ text ∈ [firstName, access p], context.payload = .json text := by
  cases forwards with
  | wholeBody _ _ _ _ payload => exact ⟨_, List.mem_cons_self, payload⟩
  | body _ _ payload => exact ⟨_, List.mem_cons_of_mem _ List.mem_cons_self, payload⟩
  | wholeQuery _ queries _ _ areQueries member =>
      cases isBody.symm.trans (areQueries p member)
  | queryEntry _ _ isQuery => cases isBody.symm.trans isQuery
  | header isHeader => cases isBody.symm.trans isHeader
  | formField _ isForm => cases isBody.symm.trans isForm

end RequestContext.Forwards

namespace RequestParameters

variable {parameters : RequestParameters} {p : ResolvedParameter}

theorem wholeBody?_eq_none (member : p ∈ parameters.grouped) : parameters.wholeBody? = none := by
  rw [wholeBody?, if_neg]
  intro isEmpty
  rw [List.isEmpty_iff.mp isEmpty] at member
  cases member

theorem firstArgument?_of_mem (noWhole : parameters.wholeBody? = none)
    (member : p ∈ parameters.fieldParameters) :
    ∃ first, parameters.firstArgument? = some first ∧
      first.type = .record (parameters.fieldParameters.map (·.field)) := by
  have nonempty : parameters.fieldParameters.map (·.field) ≠ [] :=
    List.ne_nil_of_mem (List.mem_map_of_mem member)
  unfold firstArgument?
  rw [noWhole]
  split
  · rename_i isWhole
    cases isWhole
  · split
    · rename_i isEmpty
      exact absurd isEmpty nonempty
    · exact ⟨_, rfl, rfl⟩

theorem hasField_of_mem (noWhole : parameters.wholeBody? = none)
    (member : p ∈ parameters.fieldParameters) : HasField parameters.firstArgument? p := by
  obtain ⟨first, isFirst, isRecord⟩ := firstArgument?_of_mem noWhole member
  exact ⟨first, _, isFirst, isRecord, List.mem_map_of_mem member⟩

theorem hasField_of_mem_grouped (member : p ∈ parameters.grouped) :
    HasField parameters.firstArgument? p :=
  hasField_of_mem (wholeBody?_eq_none member) (List.mem_append_left _ member)

/-- If there are as many fields as go into the query, there are no others. -/
theorem fieldParameters_eq_query
    (all : parameters.query.length = parameters.fieldParameters.length) :
    parameters.fieldParameters = parameters.query := by
  have isPrefix : parameters.query <+: parameters.fieldParameters := by
    rw [fieldParameters, grouped, List.append_assoc, List.append_assoc]
    exact List.prefix_append _ _
  exact (isPrefix.eq_of_length all).symm

theorem mem_grouped_of_mem_query (member : p ∈ parameters.query) : p ∈ parameters.grouped :=
  List.mem_append_left _ (List.mem_append_left _ member)

/-- The query object is the argument itself or has an entry for every parameter of the query. -/
theorem forwards_query {context : RequestContext} (query : context.query? = parameters.query?)
    (areQueries : ∀ q ∈ parameters.query, q.parameter.location = .query)
    (member : p ∈ parameters.query) : context.Forwards parameters.firstArgument? p := by
  have grouped := mem_grouped_of_mem_query member
  have someQuery : parameters.query.isEmpty = false := by
    rw [List.isEmpty_eq_false_iff]
    exact List.ne_nil_of_mem member
  rw [query?, someQuery, if_neg Bool.false_ne_true] at query
  by_cases all : parameters.query.length = parameters.fieldParameters.length
  · obtain ⟨first, isFirst, isRecord⟩ :=
      firstArgument?_of_mem (wholeBody?_eq_none grouped) (List.mem_append_left _ grouped)
    rw [fieldParameters_eq_query all] at isRecord
    rw [if_pos all] at query
    exact .wholeQuery first parameters.query isFirst isRecord areQueries member query
  · obtain ⟨before, after, parts⟩ := List.append_of_mem member
    rw [if_neg all, parts, List.map_append, List.map_cons] at query
    exact .queryEntry _ _ (areQueries p member) (hasField_of_mem_grouped grouped) query

theorem payload_of_mem_form (member : p ∈ parameters.form) :
    parameters.payload = .form (parameters.form.map formField) := by
  have someField : ¬ parameters.form.isEmpty = true := by
    rw [List.isEmpty_iff]
    exact List.ne_nil_of_mem member
  rw [payload, wholeBody?_eq_none (List.mem_append_right _ member)]
  exact if_neg someField

/-- The payload is the argument itself or read off it, if nothing goes into a form. -/
theorem forwards_body {context : RequestContext} (payload : context.payload = parameters.payload)
    (noForm : parameters.form = []) (isBody : p.parameter.location = .body)
    (body : parameters.body? = some p) : context.Forwards parameters.firstArgument? p := by
  rw [RequestParameters.payload] at payload
  by_cases alone : parameters.grouped.isEmpty = true
  · have whole : parameters.wholeBody? = some p := by rw [wholeBody?, if_pos alone, body]
    rw [whole] at payload
    refine .wholeBody ⟨p.resolved.type, false, !p.parameter.required⟩ isBody ?_ rfl payload
    rw [firstArgument?, whole]
  · have noWhole : parameters.wholeBody? = none := by rw [wholeBody?, if_neg alone]
    have member : p ∈ parameters.fieldParameters := by
      rw [fieldParameters, body]
      exact List.mem_append_right _ List.mem_cons_self
    rw [noWhole, noForm, body] at payload
    exact .body isBody (hasField_of_mem noWhole member) payload

end RequestParameters

namespace Operation

open Parameter (IsFirst)

variable {operation : Operation} {resolver : TypeResolver} {config : CompileConfig} {p : Parameter}

/-- A parameter that is kept for the query, the headers or the form is forwarded. -/
theorem forwards_of_isFirst (isFirst : IsFirst operation.parameters p)
    (isSent : p.location = .query ∨ p.location = .header ∨ p.location = .form) :
    (operation.requestContext resolver config).Forwards (operation.arguments resolver).first?
      (resolved resolver p) := by
  rcases isSent with isQuery | isHeader | isForm
  · have query : (operation.requestContext resolver config).query? =
        (ofOperation resolver operation).query? := rfl
    exact forwards_query query (fun q inQuery => (exists_of_mem_channel (by decide) inQuery).1)
      (mem_channel isFirst isQuery)
  · have member : resolved resolver p ∈ (ofOperation resolver operation).headers :=
      mem_channel isFirst isHeader
    have grouped : resolved resolver p ∈ (ofOperation resolver operation).grouped :=
      List.mem_append_left _ (List.mem_append_right _ member)
    exact .header isHeader (hasField_of_mem_grouped grouped)
      (List.mem_map.mpr ⟨resolved resolver p, member, rfl⟩)
  · have member : resolved resolver p ∈ (ofOperation resolver operation).form :=
      mem_channel isFirst isForm
    have grouped : resolved resolver p ∈ (ofOperation resolver operation).grouped :=
      List.mem_append_right _ member
    exact .formField _ isForm (hasField_of_mem_grouped grouped) (payload_of_mem_form member)
      (List.mem_map_of_mem member)

/-- The payload that is kept is forwarded. -/
theorem forwards_of_isPayload (isPayload : p.IsPayload operation.parameters) :
    (operation.requestContext resolver config).Forwards (operation.arguments resolver).first?
      (resolved resolver p) := by
  have noForm : (ofOperation resolver operation).form = [] := by
    rw [List.eq_nil_iff_forall_not_mem]
    intro q member
    obtain ⟨isForm, isFirst⟩ := exists_of_mem_channel (by decide) member
    exact isPayload.noForm q.parameter isFirst isForm
  exact forwards_body rfl noForm isPayload.isBody (head?_channel_body isPayload)

end Operation

/-! ## Operations of documents -/

namespace Document

open Parameter (IsFirst)

namespace Reader

variable {root body raw : Json} {p : Parameter}

theorem location_of_mem_formParameters {content : List (String × Json)}
    (member : p ∈ formParameters root content) : p.location = .form := by
  unfold formParameters at member
  split at member
  · cases member
  · split at member
    · obtain ⟨property, -, rfl⟩ := List.mem_map.mp member
      cases property with
      | mk name schema required => rfl
    · cases member

/-- A request body that is a payload is one parameter, which has a name of its own. -/
theorem bodyParameters_of_isBody (member : p ∈ bodyParameters root body)
    (isBody : p.location = .body) : bodyParameters root body = [p] ∧ p.name = bodyName := by
  revert member
  unfold bodyParameters
  split
  · exact fun member => nomatch member
  · split
    · split
      · exact fun member => nomatch member
      · intro member
        rw [List.mem_singleton] at member
        exact ⟨congrArg (fun q => [q]) member.symm, member ▸ rfl⟩
    · intro member
      have isForm := location_of_mem_formParameters member
      rw [isBody] at isForm
      cases isForm

/-- A request body is the payload of its operation if no declared parameter takes its name, is a
payload itself, or goes into a form. -/
theorem isPayload_of_mem_bodyParameters {declared : List Parameter}
    (member : p ∈ bodyParameters root body) (isBody : p.location = .body)
    (noName : ∀ q ∈ declared, q.location ≠ .path → q.name ≠ bodyName)
    (noPayload : ∀ q, IsFirst declared q → q.location ≠ .body ∧ q.location ≠ .form) :
    p.IsPayload (declared ++ bodyParameters root body) := by
  obtain ⟨alone, isNamed⟩ := bodyParameters_of_isBody member isBody
  rw [alone]
  refine ⟨isBody, ⟨declared, [], rfl, ?_, fun q isFirst => (noPayload q isFirst).1⟩, ?_⟩
  · rw [isNamed]
    exact noName
  · rintro q ⟨outside, before, after, parts, areOthers⟩ isForm
    -- A field of a form is not the request body itself, so it is one of the declared parameters.
    rcases List.eq_nil_or_concat after with rfl | ⟨front, last, rfl⟩
    · obtain ⟨-, same⟩ := List.append_inj' parts rfl
      cases same
      rw [isBody] at isForm
      cases isForm
    · rw [List.concat_eq_append, ← List.cons_append, ← List.append_assoc] at parts
      obtain ⟨rfl, -⟩ := List.append_inj' parts rfl
      exact (noPayload q ⟨outside, before, front, rfl, areOthers⟩).2 isForm

end Reader

/-- An operation of a document is read from what stands under its path and its method. -/
theorem exists_of_mem_operations {root : Json} {document : Document}
    (read : Document.ofJson? root = some document) {operation : Operation}
    (member : operation ∈ document.operations) :
    ∃ path item method raw, (Reader.resolve root item).get? (HttpMethod.key method) = some raw ∧
      operation = Reader.operation root path
        (Reader.items (Reader.resolve root item) "parameters") method raw := by
  obtain ⟨members, -, whole⟩ := Option.bind_eq_some_iff.mp read
  cases Option.some.inj whole
  obtain ⟨⟨path, item⟩, -, inPath⟩ := List.mem_flatMap.mp member
  obtain ⟨method, -, isRead⟩ := List.mem_filterMap.mp inPath
  obtain ⟨raw, isObject, rfl⟩ := Option.map_eq_some_iff.mp isRead
  exact ⟨path, item, method, raw, (Option.filter_eq_some_iff.mp isObject).1, rfl⟩

/-- A parameter of an operation that is sent in the query, the headers or the form is forwarded if
it is the first of its name outside the path, and so is the payload. In particular a request body is
forwarded if no declared parameter takes its name, is a payload itself, or goes into a form. -/
theorem forwards_parameters {root : Json} {document : Document}
    (read : Document.ofJson? root = some document) {operation : Operation}
    (member : operation ∈ document.operations) (resolver : TypeResolver)
    (config : CompileConfig) :
    let context := operation.requestContext resolver config
    let first? := (operation.arguments resolver).first?
    (∀ p : Parameter, p.IsFirst operation.parameters →
        p.location = .query ∨ p.location = .header ∨ p.location = .form →
        context.Forwards first? (resolved resolver p)) ∧
      (∀ p : Parameter, p.IsPayload operation.parameters →
        context.Forwards first? (resolved resolver p)) ∧
      (∃ path item method raw, (Reader.resolve root item).get? (HttpMethod.key method) = some raw ∧
        operation = Reader.operation root path
          (Reader.items (Reader.resolve root item) "parameters") method raw) ∧
      ∀ path shared method raw, operation = Reader.operation root path shared method raw →
        ∀ body, raw.get? "requestBody" = some body →
        ∀ p ∈ Reader.bodyParameters root (Reader.resolve root body), p.location = .body →
        let declared := Reader.declaredParameters root shared (Reader.items raw "parameters")
        (∀ q ∈ declared, q.location ≠ .path → q.name ≠ Reader.bodyName) →
        (∀ q : Parameter, q.IsFirst declared → q.location ≠ .body ∧ q.location ≠ .form) →
        context.Forwards first? (resolved resolver p) := by
  intro context first?
  refine ⟨fun p => Operation.forwards_of_isFirst, fun p => Operation.forwards_of_isPayload,
    exists_of_mem_operations read member, ?_⟩
  intro path shared method raw isRead body isGiven p isParameter isBody declared noName noPayload
  have parameters : operation.parameters =
      declared ++ Reader.bodyParameters root (Reader.resolve root body) := by
    rw [isRead, Reader.operation, isGiven]
    rfl
  apply Operation.forwards_of_isPayload
  rw [parameters]
  exact Reader.isPayload_of_mem_bodyParameters isParameter isBody noName noPayload

/-! ## An operation that orders things -/

/-- A declared parameter. -/
def parameterJson (name location : String) : Json :=
  .object [("name", .string name), ("in", .string location)]

/-- A request body that is a text. -/
def orderBody : Json :=
  .object [("content", .object [("application/json",
    .object [("schema", .object [("type", .string "string")])])])]

/-- What is said about the operation, given its parameters. -/
def orderJson (parameters : List Json) : Json :=
  .object [("parameters", .array parameters), ("requestBody", orderBody)]

/-- A document with this operation alone. -/
def orderRoot (parameters : List Json) : Json :=
  .object [("paths", .object [("/orders", .object [("post", orderJson parameters)])])]

/-- The operation as it is read. -/
def order (parameters : List Json) : Operation :=
  Reader.operation (orderRoot parameters) "/orders" [] .post (orderJson parameters)

theorem exists_order (parameters : List Json) : ∃ document,
    Document.ofJson? (orderRoot parameters) = some document ∧
      order parameters ∈ document.operations :=
  ⟨_, rfl, List.mem_cons_self⟩

/-- Parameters that do not get in each other's way. -/
def apart : List Json :=
  [parameterJson "page" "query", parameterJson "token" "header"]

theorem forwards_parameters_apart :
    ∃ p ∈ (order apart).parameters, p.location = .body ∧
      ((order apart).requestContext {} {}).Forwards ((order apart).arguments {}).first?
        (resolved {} p) := by
  let root := orderRoot apart
  let declared := Reader.declaredParameters root [] apart
  obtain ⟨document, read, member⟩ := exists_order apart
  obtain ⟨-, -, -, ofBody⟩ := forwards_parameters read member {} {}
  have areApart : ∀ q ∈ declared, q.name ≠ Reader.bodyName ∧ q.location ≠ .body ∧
      q.location ≠ .form := by decide +kernel
  have noPayload : ∀ q : Parameter, q.IsFirst declared →
      q.location ≠ .body ∧ q.location ≠ .form := by
    rintro q ⟨-, before, after, parts, -⟩
    exact (areApart q (parts ▸ List.mem_append_right _ List.mem_cons_self)).2
  obtain ⟨p, isParameter, isBody⟩ :
      ∃ p ∈ Reader.bodyParameters root (Reader.resolve root orderBody), p.location = .body := by
    decide +kernel
  refine ⟨p, List.mem_append_right _ isParameter, isBody, ?_⟩
  exact ofBody "/orders" [] .post (orderJson apart) rfl orderBody rfl p isParameter isBody
    (fun q isDeclared _ => (areApart q isDeclared).1) noPayload

/-- The operation of some document does not forward a parameter of the given name and location. -/
def Drops (parameters : List Json) (name : String) (location : ParameterLocation) : Prop :=
  ∃ document, Document.ofJson? (orderRoot parameters) = some document ∧
    ∃ operation ∈ document.operations, ∃ p ∈ operation.parameters,
      p.name = name ∧ p.location = location ∧
        ¬ (operation.requestContext {} {}).Forwards (operation.arguments {}).first?
          (resolved {} p)

theorem drops_header {parameters : List Json} {name : String}
    (given : ∃ p ∈ (order parameters).parameters, p.name = name ∧ p.location = .header)
    (noHeaders : ((order parameters).requestContext {} {}).headers = []) :
    Drops parameters name .header := by
  obtain ⟨document, read, member⟩ := exists_order parameters
  obtain ⟨p, isParameter, isNamed, isHeader⟩ := given
  refine ⟨document, read, order parameters, member, p, isParameter, isNamed, isHeader, ?_⟩
  intro forwards
  have pair := forwards.pair_of_isHeader isHeader
  rw [noHeaders] at pair
  cases pair

theorem drops_body {parameters : List Json} {payload : Payload}
    (given : ∃ p ∈ (order parameters).parameters, p.name = Reader.bodyName ∧ p.location = .body)
    (isPayload : ((order parameters).requestContext {} {}).payload = payload)
    (noBody : ∀ text ∈ ["params", "params.body"], payload ≠ .json text) :
    Drops parameters Reader.bodyName .body := by
  obtain ⟨document, read, member⟩ := exists_order parameters
  obtain ⟨p, isParameter, isNamed, isBody⟩ := given
  refine ⟨document, read, order parameters, member, p, isParameter, isNamed, isBody, ?_⟩
  intro forwards
  obtain ⟨text, isText, isJson⟩ := forwards.json_of_isBody isBody
  have isAccess : access (resolved {} p) = "params.body" := by
    show Naming.propertyAccess firstName p.name = _
    rw [isNamed]
    decide +kernel
  rw [isAccess] at isText
  exact noBody text isText (isPayload.symm.trans isJson)

/-- A header with the name of a query parameter is dropped, and so is a request body beside a field
of a form, beside a parameter of its name, and beside another payload. -/
theorem not_forwards_parameters_clashing :
    Drops [parameterJson "id" "query", parameterJson "id" "header"] "id" .header ∧
      Drops [parameterJson "file" "formData"] Reader.bodyName .body ∧
      Drops [parameterJson "body" "query"] Reader.bodyName .body ∧
      Drops [parameterJson "token" "header", parameterJson "item" "body"] Reader.bodyName
        .body := by
  refine ⟨?_, ?_, ?_, ?_⟩
  · exact drops_header (by decide +kernel) (by decide +kernel)
  · obtain ⟨fields, isForm⟩ : ∃ fields,
        ((order [parameterJson "file" "formData"]).requestContext {} {}).payload = .form fields :=
      ⟨_, rfl⟩
    exact drops_body (by decide +kernel) isForm (by rintro text - ⟨⟩)
  · have isNone : ((order [parameterJson "body" "query"]).requestContext {} {}).payload = .none :=
      rfl
    exact drops_body (by decide +kernel) isNone (by rintro text - ⟨⟩)
  · have isFirst : ((order [parameterJson "token" "header",
        parameterJson "item" "body"]).requestContext {} {}).payload = .json "params.item" := by
      decide +kernel
    exact drops_body (by decide +kernel) isFirst (by decide)

end Document

end TypedClient

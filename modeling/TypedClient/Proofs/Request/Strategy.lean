/-
# Emitted request functions

Both strategies make request functions of the texts they are told. If these texts are
pieces, so are the expressions made of them, and layout keeps the function.
-/

import TypedClient.Proofs.Code.Function
import TypedClient.Request.Strategy

namespace TypedClient

open Code Layout

/-! ## Contexts -/

/-- A payload whose expressions are pieces. -/
def Payload.IsWritten : Payload → Prop
  | .none => True
  | .json access => (Expr.raw access).IsValue
  | .form fields => ∀ field ∈ fields, Piece field.access.toList []

/-- A request in typed code whose parts are pieces. -/
structure RequestContext.IsWritten (context : RequestContext) : Prop where
  typeScript : context.language = .typeScript
  valid : Naming.isValidIdentifier context.name = true
  signature : Piece context.signature.toList []
  url : (Expr.raw context.url).IsValue
  response : Piece context.responseType.toList []
  query : ∀ query ∈ context.query?, (Expr.raw query).IsValue
  payload : context.payload.IsWritten
  headers : ∀ header ∈ context.headers, Piece header.2.toList []

namespace RequestStrategy

/-! ## Headers and forms -/

/-- The object of header values is a value. -/
theorem isValue_headersObject? {extra : List (String × Expr)} {headers : List (String × String)}
    (inline : ∀ entry ∈ extra, entry.2.IsInline)
    (pieces : ∀ header ∈ headers, Piece header.2.toList []) :
    ∀ object ∈ headersObject? extra headers, object.IsValue := by
  intro object isObject
  unfold headersObject? at isObject
  split at isObject
  · cases isObject
  · cases isObject
    refine .inlineObject (List.forall_mem_append.mpr ⟨?_, ?_⟩)
      (List.forall_mem_append.mpr ⟨?_, ?_⟩)
    · exact List.forall_mem_map.mpr fun entry _ => piece_quoteLiteral entry.1
    · exact List.forall_mem_map.mpr fun header _ => piece_quoteLiteral header.1
    · exact List.forall_mem_map.mpr inline
    · exact List.forall_mem_map.mpr fun header isHeader => .raw (pieces header isHeader)

theorem isInline_isPresent {value : Expr} (inline : value.IsInline) :
    (Expr.isPresent value).IsInline := by
  have undefined : (Expr.identifier "undefined").IsInline := .identifier (Piece.plain rfl)
  have null : (Expr.identifier "null").IsInline := .identifier (Piece.plain rfl)
  exact .binary .and (.binary .notEqual inline undefined) (.binary .notEqual inline null)

/-- Statements that fill a form are written. -/
theorem isWritten_formStatements {fields : List FormField} (language : Language)
    (pieces : ∀ field ∈ fields, Piece field.access.toList []) :
    ∀ statement ∈ formStatements language fields, statement.IsWritten := by
  refine List.forall_mem_cons.mpr ⟨?_, ?_⟩
  · have form : (Expr.construct "FormData" []).IsInline :=
      .construct (Piece.plain rfl) (List.forall_mem_nil _)
    exact .constant (by decide) (Or.inl form)
  · intro statement member
    obtain ⟨field, isField, rfl⟩ := List.mem_map.mp member
    have access : (Expr.raw field.access).IsInline := .raw (pieces field isField)
    have text : (Expr.callOf "String" [Expr.raw field.access]).IsInline :=
      .callOf (Piece.plain rfl) (List.forall_mem_singleton.mpr access)
    refine .guarded (isInline_isPresent access) (.callOf (Piece.plain rfl) ?_)
    refine List.forall_mem_cons.mpr ⟨.literal field.key, List.forall_mem_singleton.mpr ?_⟩
    split
    · exact access
    · exact text

/-- The entry of a fixed key, if there is a value for it. -/
theorem isEntry_of_mem_toList {key : String} (isKey : Naming.needsQuotes key = false)
    {value? : Option Expr} (isValue : ∀ value ∈ value?, value.IsValue) :
    ∀ entry ∈ (value?.map fun value => (key, value)).toList, Expr.IsEntry entry := by
  intro entry member
  cases value? with
  | none => cases member
  | some value =>
      rw [List.mem_singleton.mp member]
      exact ⟨isKey, isValue value rfl⟩

/-! ## The axios library -/

namespace Axios

variable {context : RequestContext}

theorem isValue_emptyObject : (Expr.raw "\x7b\x7d").IsValue :=
  .raw (Piece.nil.enclosed (c := '{') rfl rfl) (endsPlainly_of_getLast? rfl)

theorem isValue_data {payload : Payload} (written : payload.IsWritten) :
    (data payload).IsValue := by
  cases payload with
  | none => exact isValue_emptyObject
  | json access => exact written
  | form fields => exact .identifier (Piece.plain rfl) (endsPlainly_of_getLast? rfl)

/-- The options are entries that can have a line each. -/
theorem isEntry_of_mem_options (written : context.IsWritten) :
    ∀ entry ∈ options context, Expr.IsEntry entry := by
  have isKey : ∀ key ∈ ["url", "method", "params", "data", "headers", "responseType"],
      Naming.needsQuotes key = false := by decide
  have params : (Expr.raw (context.query?.getD "\x7b\x7d")).IsValue := by
    cases isQuery : context.query? with
    | none => exact isValue_emptyObject
    | some query => exact written.query query isQuery
  have headers : ∀ object ∈ headersObject? [] context.headers, object.IsValue :=
    isValue_headersObject? (List.forall_mem_nil _) written.headers
  intro entry member
  simp only [options, List.mem_append, List.mem_cons, List.not_mem_nil, or_false] at member
  rcases member with ((rfl | rfl | rfl | rfl) | inHeaders) | isResponse
  · exact ⟨isKey "url" (by decide), written.url⟩
  · exact ⟨isKey "method" (by decide), .literal _⟩
  · exact ⟨isKey "params" (by decide), params⟩
  · exact ⟨isKey "data" (by decide), isValue_data written.payload⟩
  · exact isEntry_of_mem_toList (isKey "headers" (by decide)) headers entry inHeaders
  · split at isResponse
    · rw [List.mem_singleton.mp isResponse]
      exact ⟨isKey "responseType" (by decide), .literal _⟩
    · cases isResponse

/-- The call of the library up to the object of options. -/
def callHead (context : RequestContext) : List Char :=
  "axios.request".toList ++ (Expr.typeArgumentList
    [context.responseType, "AxiosResponse<" ++ context.responseType ++ ">"]).toList ++ ['(']

theorem spreads_request (written : context.IsWritten) (level : Nat) :
    Expr.Spreads level (callHead context) ((request context).emit level).toList := by
  have opening : Piece "AxiosResponse<".toList [] := Piece.plain rfl
  have closing : Piece ">".toList [] := Piece.plain rfl
  have answer : Piece ("AxiosResponse<" ++ context.responseType ++ ">").toList [] := by
    rw [String.toList_append, String.toList_append]
    exact (opening.append_closed written.response).append_closed closing
  have nonempty : options context ≠ [] := by simp [options]
  have spreads := Expr.spreads_call "axios.request" [] (Piece.plain rfl)
    (List.forall_mem_cons.mpr ⟨written.response, List.forall_mem_singleton.mpr answer⟩)
    (List.forall_mem_nil _) nonempty
    (isEntry_of_mem_options written) level
  rw [request, written.typeScript]
  exact spreads

/-- The function of a request is kept. -/
theorem emitted_function (written : context.IsWritten) :
    Emitted false 0 (function context).emit.toList := by
  have header : (function context).IsWritten :=
    ⟨written.valid, written.signature, fun type isType => absurd isType (by simp [function])⟩
  have isWord : "axios".toList.all Naming.isKeyPart = true := by decide
  have noWord : StartsNoWord (callHead context ++ ['{']) := by
    change StartsNoWord ("axios".toList ++ '.' :: _)
    exact StartsNoWord.append isWord (startsNoWord_cons _)
  have expression : (function context).body = .expression (request context) →
      Emitted false 0 (function context).emit.toList := fun isBody =>
    Function.emitted_expression header isBody (spreads_request written 1)
      (startsPlainly_cons _) rfl noWord.declarationFault?_eq_none
  have isPayload := written.payload
  cases payload : context.payload with
  | none => exact expression (by rw [function, payload])
  | json access => exact expression (by rw [function, payload])
  | form fields =>
      rw [payload] at isPayload
      have isBody : (function context).body = .block
          (formStatements context.language fields ++ [.returned (request context)]) := by
        rw [function, payload]
      apply Function.emitted_block header isBody
      intro statement member
      rcases List.mem_append.mp member with inForm | isReturn
      · exact isWritten_formStatements context.language isPayload statement inForm
      · rw [List.mem_singleton.mp isReturn]
        exact .returned (Or.inr fun level => ⟨_, spreads_request written level⟩)

end Axios

/-! ## The global fetch -/

namespace Fetch

variable {context : RequestContext}

/-- The statements that build the query string are written. -/
theorem isWritten_queryStatements {query : String} (isQuery : (Expr.raw query).IsInline) :
    ∀ statement ∈ queryStatements query, statement.IsWritten := by
  have value : (Expr.identifier "value").IsInline := .identifier (Piece.plain rfl)
  have key : (Expr.identifier "key").IsInline := .identifier (Piece.plain rfl)
  have entries : (Expr.callOf "Object.entries" [.raw query]).IsInline :=
    .callOf (Piece.plain rfl) (List.forall_mem_singleton.mpr isQuery)
  have text : (Expr.callOf "String" [.identifier "value"]).IsInline :=
    .callOf (Piece.plain rfl) (List.forall_mem_singleton.mpr value)
  have append : (Expr.callOf "query.append"
      [.identifier "key", .callOf "String" [.identifier "value"]]).IsInline :=
    .callOf (Piece.plain rfl) (List.forall_mem_cons.mpr ⟨key, List.forall_mem_singleton.mpr text⟩)
  have names : Piece "key, value".toList [] := Piece.plain rfl
  have binding : Piece "[key, value]".toList [] := names.enclosed (c := '[') rfl rfl
  intro statement member
  simp only [queryStatements, List.mem_cons, List.not_mem_nil, or_false] at member
  rcases member with rfl | rfl | rfl
  · exact .constant (by decide) (Or.inl (.construct (Piece.plain rfl) (List.forall_mem_nil _)))
  · exact .forEach binding entries
      (List.forall_mem_singleton.mpr (.guarded (isInline_isPresent value) append))
  · exact .constant (by decide) (Or.inl (.callOf (Piece.plain rfl) (List.forall_mem_nil _)))

/-- The address is chosen on one line. -/
theorem isInline_target (query? : Option String) : (target query?).IsInline := by
  have url : (Expr.identifier "url").IsInline := .identifier (Piece.plain rfl)
  have search : (Expr.identifier "search").IsInline := .identifier (Piece.plain rfl)
  cases query? with
  | none => exact url
  | some query =>
      have joined : Piece "\x60$\x7burl\x7d?$\x7bsearch\x7d\x60".toList [] :=
        ⟨by decide, by decide, fun {scanner line level} inCode => by
          -- Behind the first sign the innermost delimiter is known, so the rest computes.
          obtain ⟨stack, inComment⟩ := scanner
          obtain rfl : inComment = false := inCode.comment
          exact (Scanner.foldlM_cons_of_eq_ok (inCode.feed '\x60')).trans rfl⟩
      exact .conditional search (.raw joined) url

theorem isEntry_of_mem_bodyOption {payload : Payload} (written : payload.IsWritten) :
    ∀ entry ∈ bodyOption payload, Expr.IsEntry entry := by
  have isKey : Naming.needsQuotes "body" = false := by decide
  cases payload with
  | none => exact List.forall_mem_nil _
  | json access =>
      have isAccess : (Expr.raw access).IsValue := written
      exact List.forall_mem_singleton.mpr
        ⟨isKey, .callOf (Piece.plain rfl) (List.forall_mem_singleton.mpr isAccess.inline)⟩
  | form fields =>
      exact List.forall_mem_singleton.mpr
        ⟨isKey, .identifier (Piece.plain rfl) (endsPlainly_of_getLast? rfl)⟩

/-- The options are entries that can have a line each. -/
theorem isEntry_of_mem_options (written : context.IsWritten) :
    ∀ entry ∈ options context, Expr.IsEntry entry := by
  have extra : ∀ entry ∈ payloadHeaders context.payload, entry.2.IsInline := by
    cases context.payload with
    | json access => exact List.forall_mem_singleton.mpr (.literal _)
    | none => exact List.forall_mem_nil _
    | form fields => exact List.forall_mem_nil _
  have headers := isValue_headersObject? extra written.headers
  have isKey : ∀ key ∈ ["method", "headers"], Naming.needsQuotes key = false := by decide
  intro entry member
  simp only [options, List.mem_append, List.mem_singleton] at member
  rcases member with (rfl | inHeaders) | inBody
  · exact ⟨isKey "method" (by decide), .literal _⟩
  · exact isEntry_of_mem_toList (isKey "headers" (by decide)) headers entry inHeaders
  · exact isEntry_of_mem_bodyOption written.payload entry inBody

/-- The statements that send the request are written. -/
theorem isWritten_sendStatements (written : context.IsWritten) :
    ∀ statement ∈ sendStatements context, statement.IsWritten := by
  have nonempty : options context ≠ [] := by simp [options]
  have sent : (Expr.callOf "fetch"
      [target context.query?, .blockObject (options context)]).IsWritten :=
    Or.inr fun level => ⟨_, Expr.spreads_call "fetch" [target context.query?]
      (Piece.plain rfl) (List.forall_mem_nil _)
      (List.forall_mem_singleton.mpr (isInline_target context.query?)) nonempty
      (isEntry_of_mem_options written) level⟩
  have ok : (Expr.not (.identifier "res.ok")).IsInline := .not (.identifier (Piece.plain rfl))
  have status : (Expr.identifier "res.status").IsInline := .identifier (Piece.plain rfl)
  have failure : ∀ message, (Expr.construct "Error"
      [.binary .add (.literal message) (.identifier "res.status")]).IsInline := fun message =>
    .construct (Piece.plain rfl)
      (List.forall_mem_singleton.mpr (.binary .add (.literal message) status))
  refine List.forall_mem_cons.mpr ⟨.constant (by decide) sent.await, ?_⟩
  refine List.forall_mem_singleton.mpr (.branch ok ?_)
  exact List.forall_mem_singleton.mpr (.thrown (Or.inl (failure _)))

theorem isWritten_payloadStatements {payload : Payload} (language : Language)
    (written : payload.IsWritten) :
    ∀ statement ∈ payloadStatements language payload, statement.IsWritten := by
  cases payload with
  | none => exact List.forall_mem_nil _
  | json access => exact List.forall_mem_nil _
  | form fields => exact isWritten_formStatements language written

theorem isWritten_readStatements :
    ∀ statement ∈ readStatements context, statement.IsWritten := by
  have text : (Expr.callOf "res.text" []).IsInline :=
    .callOf (Piece.plain rfl) (List.forall_mem_nil _)
  unfold readStatements
  split
  · exact List.forall_mem_nil _
  · exact List.forall_mem_singleton.mpr (.constant (by decide) (Or.inl (.await text)))

/-- The answer is read on one line. -/
theorem isInline_result (written : context.IsWritten) : (result context).IsInline := by
  have text : (Expr.identifier "text").IsInline := .identifier (Piece.plain rfl)
  have undefined : (Expr.identifier "undefined").IsInline := .identifier (Piece.plain rfl)
  have blob : (Expr.callOf "res.blob" []).IsInline :=
    .callOf (Piece.plain rfl) (List.forall_mem_nil _)
  have parsed : (Expr.callOf "JSON.parse" [.identifier "text"]).IsInline :=
    .callOf (Piece.plain rfl) (List.forall_mem_singleton.mpr text)
  rw [result, written.typeScript]
  refine .cast (.parenthesized ?_) written.response
  split
  · exact .await blob
  · exact .conditional text parsed undefined

/-- The function of a request is kept. -/
theorem emitted_function (written : context.IsWritten) :
    Emitted false 0 (function context).emit.toList := by
  have opening : Piece "Promise<".toList [] := Piece.plain rfl
  have closing : Piece ">".toList [] := Piece.plain rfl
  have returned : Piece (returnType context.responseType).toList [] := by
    rw [returnType, String.toList_append, String.toList_append]
    exact (opening.append_closed written.response).append_closed closing
  have header : (function context).IsWritten := by
    refine ⟨written.valid, written.signature, fun type isType => ?_⟩
    simp only [function, written.typeScript] at isType
    cases isType
    exact returned
  refine Function.emitted_block header rfl (List.forall_mem_cons.mpr ⟨?_, ?_⟩)
  · exact .constant (by decide) (Or.inl written.url.inline)
  · intro statement member
    simp only [List.mem_append, List.mem_singleton] at member
    rcases member with (((inQuery | inPayload) | inSend) | inRead) | rfl
    · cases isQuery : context.query? with
      | none =>
          rw [isQuery] at inQuery
          cases inQuery
      | some query =>
          rw [isQuery] at inQuery
          exact isWritten_queryStatements (written.query query isQuery).inline statement inQuery
    · exact isWritten_payloadStatements context.language written.payload statement inPayload
    · exact isWritten_sendStatements written statement inSend
    · exact isWritten_readStatements statement inRead
    · exact .returned (Or.inl (isInline_result written))

end Fetch

end RequestStrategy

end TypedClient

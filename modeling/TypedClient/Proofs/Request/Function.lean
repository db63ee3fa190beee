/-
# Emitted operations

An operation's function is its comment and what a strategy writes. All the strategy is
told are pieces: types because they are resolved, keys because they are quoted where
they have to be, and the URL because it escapes what could end it.
-/

import TypedClient.Proofs.Declaration.Comment
import TypedClient.Proofs.Layout.Module
import TypedClient.Proofs.Request.Imports
import TypedClient.Proofs.Request.Strategy
import TypedClient.Proofs.Types.Scanned
import TypedClient.Proofs.Url.Scanned

namespace TypedClient

open Code Layout

/-! ## Parameters -/

namespace RequestParameters

variable {resolver : TypeResolver} {operation : Operation}

/-- A type that an annotation can be written with. -/
theorem isResolved_of_mem (writes : resolver.WritesImports) {p : ResolvedParameter}
    (member : p ∈ (ofOperation resolver operation).path ++
      (ofOperation resolver operation).fieldParameters) :
    p.resolved.type.IsResolved False := by
  obtain ⟨schema, resolved⟩ := exists_schema_of_mem member
  rw [resolved]
  exact TypeResolver.isResolved_typeOf writes schema False.elim

theorem isResolved_firstArgument? (writes : resolver.WritesImports) :
    ∀ first ∈ (ofOperation resolver operation).firstArgument?, first.type.IsResolved False := by
  intro first isFirst
  unfold firstArgument? at isFirst
  split at isFirst
  · rename_i body isWhole
    cases isFirst
    exact isResolved_of_mem writes
      (List.mem_append_right _ (mem_fieldParameters_of_wholeBody? isWhole))
  · split at isFirst
    · cases isFirst
    · rename_i fields nonempty
      cases isFirst
      refine .record nonempty fun field member => ?_
      obtain ⟨p, isParameter, rfl⟩ := List.mem_map.mp member
      exact isResolved_of_mem writes (List.mem_append_right _ isParameter)

theorem isResolved_pathType? (writes : resolver.WritesImports) (url : UrlTemplate) :
    ∀ type ∈ (ofOperation resolver operation).pathType? url, type.IsResolved False := by
  intro type isType
  unfold pathType? at isType
  split at isType
  · cases isType
  · rename_i fields nonempty
    cases isType
    refine .record nonempty fun field member => ?_
    obtain ⟨name, -, rfl⟩ := List.mem_map.mp member
    unfold placeholderField
    split
    · rename_i p found
      exact isResolved_of_mem writes (List.mem_append_left _ (List.mem_of_find?_eq_some found))
    · exact .any

/-! ## Reading parameters -/

theorem piece_access (p : ResolvedParameter) : Piece (access p).toList [] := by
  have object : Piece firstName.toList [] := Piece.plain rfl
  exact piece_propertyAccess object p.parameter.name

/-- Reading a parameter off an argument is a value, whatever its name is. -/
theorem isValue_access (p : ResolvedParameter) : (Expr.raw (access p)).IsValue := by
  refine .raw (piece_access p) ?_
  unfold access Naming.propertyAccess
  split
  · rw [String.toList_append]
    exact endsPlainly_append_singleton _
  · rename_i plain
    have isName := Naming.isName_of_needsQuotes_eq_false (by simpa using plain)
    rw [String.toList_append]
    exact (endsPlainly_of_isName isName).prepend _

theorem isValue_firstName : (Expr.raw firstName).IsValue :=
  .raw (Piece.plain rfl) (endsPlainly_of_getLast? rfl)

theorem isValue_query? (parameters : RequestParameters) :
    ∀ query ∈ parameters.query?, (Expr.raw query).IsValue := by
  intro query isQuery
  unfold query? at isQuery
  split at isQuery
  · cases isQuery
  · split at isQuery
    · cases isQuery
      exact isValue_firstName
    · cases isQuery
      have colon : Piece ": ".toList [] := Piece.plain rfl
      have inner : Piece (", ".intercalate (parameters.query.map fun p =>
          Naming.propertyKey p.parameter.name ++ ": " ++ access p)).toList [] := by
        apply piece_intercalate (by decide)
        intro text isText
        obtain ⟨p, -, rfl⟩ := List.mem_map.mp isText
        rw [String.toList_append, String.toList_append]
        exact ((piece_propertyKey _).append_closed colon).append_closed (piece_access p)
      refine .raw (by simpa using inner.braced) ?_
      rw [String.toList_append]
      exact EndsPlainly.prepend (endsPlainly_of_getLast? rfl) _

theorem isWritten_payload (parameters : RequestParameters) : parameters.payload.IsWritten := by
  unfold payload
  split
  · exact isValue_firstName
  · split
    · split
      · exact isValue_access _
      · trivial
    · intro field isField
      obtain ⟨p, -, rfl⟩ := List.mem_map.mp isField
      exact piece_access p

end RequestParameters

/-! ## Signatures -/

namespace Request.Arguments

/-- Arguments whose types are pieces in typed code. -/
structure IsWritten (arguments : Arguments) : Prop where
  first : ∀ first ∈ arguments.first?, Piece (first.type.render .typeScript).toList []
  path : ∀ type ∈ arguments.path?, Piece (type.render .typeScript).toList []

variable {arguments : Arguments}

/-- An argument with its annotation. -/
theorem piece_annotated {name sign type : String}
    (plain : (name ++ sign).toList.all Piece.isPlainChar = true) (piece : Piece type.toList []) :
    Piece (name ++ sign ++ type).toList [] := by
  rw [String.toList_append]
  exact (Piece.plain plain).append_closed piece

theorem piece_firstParameter (written : arguments.IsWritten) :
    ∀ text ∈ arguments.firstParameter .typeScript, Piece text.toList [] := by
  have empty : Piece "\x7b\x7d".toList [] := Piece.nil.enclosed (c := '{') rfl rfl
  have sign : Piece " = ".toList [] := Piece.plain rfl
  have default : Piece " = \x7b\x7d".toList [] := sign.append_closed empty
  unfold firstParameter
  simp only
  split
  · rename_i first isFirst
    have type := written.first first isFirst
    have annotated : Piece (RequestParameters.firstName ++ ": " ++
        first.type.render .typeScript).toList [] := piece_annotated rfl type
    refine List.forall_mem_singleton.mpr ?_
    split
    · rw [String.toList_append]
      exact annotated.append_closed default
    · split
      · have orAbsent : Piece " | undefined".toList [] := Piece.plain rfl
        rw [String.toList_append]
        exact annotated.append_closed orAbsent
      · split
        · exact piece_annotated rfl type
        · exact annotated
  · split
    · have label : Piece "params: ".toList [] := Piece.plain rfl
      exact List.forall_mem_singleton.mpr
        ((label.append_closed empty).append_closed default)
    · exact List.forall_mem_nil _

theorem piece_pathParameter (written : arguments.IsWritten) :
    ∀ text ∈ arguments.pathParameter .typeScript, Piece text.toList [] := by
  intro text isText
  obtain ⟨type, isType, rfl⟩ := Option.map_eq_some_iff.mp (Option.mem_toList.mp isText)
  exact piece_annotated rfl (written.path type isType)

/-- A parameter list is a piece. -/
theorem piece_signature (written : arguments.IsWritten) :
    Piece (arguments.signature .typeScript).toList [] := by
  have inner : Piece (", ".intercalate (arguments.firstParameter .typeScript ++
      arguments.pathParameter .typeScript)).toList [] := by
    apply piece_intercalate (by decide)
    intro text isText
    rcases List.mem_append.mp isText with isFirst | isPath
    · exact piece_firstParameter written text isFirst
    · exact piece_pathParameter written text isPath
  have whole := inner.enclosed (c := '(') rfl rfl
  simpa [signature] using whole

end Request.Arguments

/-! ## Functions -/

namespace Code.Function

/-- A function ends in a semicolon. -/
theorem exists_front_emit (function : Code.Function) :
    ∃ front, function.emit.toList = front ++ [';', '\n'] := by
  unfold emit
  split
  · exact ⟨_, String.toList_append⟩
  · rename_i statements isBody
    refine ⟨(function.header ++ " \x7b\n" ++ Statement.emitBody 1 statements).toList ++ ['}'], ?_⟩
    rw [String.toList_append, List.append_assoc]
    rfl

end Code.Function

/-- A strategy whose functions are kept, if what they are made of are pieces. -/
def RequestStrategy.IsKept (strategy : RequestStrategy) : Prop :=
  ∀ context : RequestContext, context.IsWritten →
    Emitted false 0 (strategy.function context).emit.toList

theorem StrategyRegistry.strategies_builtin : builtin.strategies = [.axios, .fetch] := by
  rfl

theorem RequestStrategy.isKept_of_mem_builtin {strategy : RequestStrategy}
    (member : strategy ∈ StrategyRegistry.builtin.strategies) : strategy.IsKept := by
  rw [StrategyRegistry.strategies_builtin] at member
  rcases List.mem_cons.mp member with rfl | isFetch
  · exact fun context => Axios.emitted_function
  · rw [List.mem_singleton.mp isFetch]
    exact fun context => Fetch.emitted_function

namespace Operation

/-- An operation whose function can be declared and whose path stands on one line. -/
structure IsEmittable (operation : Operation) (policy : NamingPolicy) : Prop where
  valid : Naming.isValidIdentifier (operation.functionName policy) = true
  noFeed : '\n' ∉ operation.path.toList

variable {operation : Operation} {resolver : TypeResolver} {config : CompileConfig}

theorem isResolved_resolvedResponse (writes : resolver.WritesImports) :
    (operation.resolvedResponse resolver).type.IsResolved False := by
  unfold resolvedResponse
  cases operation.response? with
  | none => exact .any
  | some schema => exact TypeResolver.isResolved_typeOf writes schema False.elim

theorem isValue_url (noFeed : '\n' ∉ operation.path.toList) :
    (Expr.raw (operation.url.toTemplateLiteral RequestParameters.pathName)).IsValue := by
  refine .raw (UrlTemplate.piece_toTemplateLiteral noFeed (Piece.plain rfl)) ?_
  rw [UrlTemplate.toTemplateLiteral, String.toList_append]
  exact EndsPlainly.prepend (endsPlainly_of_getLast? rfl) _

/-- All that a strategy is told about an operation are pieces. -/
theorem isWritten_requestContext (typeScript : config.language = .typeScript)
    (writes : resolver.WritesImports) (emittable : operation.IsEmittable config.naming) :
    (operation.requestContext resolver config).IsWritten where
  typeScript := typeScript
  valid := emittable.valid
  signature := by
    have arguments : (operation.arguments resolver).IsWritten :=
      ⟨fun first isFirst =>
        (RequestParameters.isResolved_firstArgument? writes first isFirst).piece,
      fun type isType =>
        (RequestParameters.isResolved_pathType? writes operation.url type isType).piece⟩
    rw [requestContext, typeScript]
    exact Request.Arguments.piece_signature arguments
  url := isValue_url emittable.noFeed
  response := by
    rw [requestContext, typeScript]
    exact (isResolved_resolvedResponse writes).piece
  query := RequestParameters.isValue_query? _
  payload := RequestParameters.isWritten_payload _
  headers := by
    intro header isHeader
    obtain ⟨p, -, rfl⟩ := List.mem_map.mp isHeader
    exact RequestParameters.piece_access p

/-- The function of an operation is a block behind its comment. -/
theorem block_requestFunction {strategy : RequestStrategy} (isKept : strategy.IsKept)
    (typeScript : config.language = .typeScript) (unchanged : config.template.substitutions = [])
    (writes : resolver.WritesImports) (emittable : operation.IsEmittable config.naming) :
    Block (operation.requestFunction resolver config strategy).text.toList := by
  have comment : Emitted false 0
      (operation.comment resolver .typeScript strategy).toList :=
    Request.emitted_comment fun line member => Request.commentBody_of_mem_commentLines member
  have function := isKept _ (isWritten_requestContext typeScript writes emittable)
  obtain ⟨front, ends⟩ :=
    (strategy.function (operation.requestContext resolver config)).exists_front_emit
  have text : (operation.requestFunction resolver config strategy).text =
      operation.comment resolver .typeScript strategy ++
        (strategy.function (operation.requestContext resolver config)).emit := by
    rw [requestFunction, unchanged, typeScript]
    rfl
  rw [text, String.toList_append]
  refine ⟨comment.append function,
    (operation.comment resolver .typeScript strategy).toList ++ front, ';', ?_, by decide⟩
  rw [ends, List.append_assoc]

end Operation

end TypedClient

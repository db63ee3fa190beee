/-
# Doc comments in plain modules

In plain modules types are told by comments: those of definitions define them, and those in front of
request functions say what arguments and answers are. Whatever a document says about a definition or
an operation in prose, it cannot end such a comment. A key or a literal with an end sign in it can,
since types are written into comments as they are.
-/

import TypedClient.Proofs.Compile.Declared
import TypedClient.Proofs.Compile.Stages
import TypedClient.Proofs.Declaration.CommentEnd
import TypedClient.Proofs.Request.Function

namespace TypedClient

open Comment

/-! ## Trimmed lines -/

namespace Request

theorem slash_notMem_of_blank {cs : List Char} (blank : ∀ c ∈ cs, Text.isWhiteSpace c = true) :
    '/' ∉ cs :=
  fun member => absurd (blank '/' member) (by decide)

/-- White space at the end of a line is no part of an end sign. -/
theorem hasEnd_trimEnd (line : String) : HasEnd (Text.trimEnd line) ↔ HasEnd line := by
  let space := (line.toList.reverse.takeWhile Text.isWhiteSpace).reverse
  have parts : line = Text.trimEnd line ++ String.ofList space := by
    apply String.toList_injective
    rw [String.toList_append, Text.trimEnd, String.toList_ofList, String.toList_ofList,
      Text.trimEndList, Text.dropEndWhile, ← List.reverse_append, List.takeWhile_append_dropWhile,
      List.reverse_reverse]
  have noSlash : '/' ∉ (String.ofList space).toList := by
    rw [String.toList_ofList]
    exact slash_notMem_of_blank fun c member => List.mem_takeWhile_imp (List.mem_reverse.mp member)
  have head : (String.ofList space).toList.head? ≠ some '/' := fun atHead =>
    noSlash (List.mem_of_mem_head? atHead)
  calc HasEnd (Text.trimEnd line)
      ↔ HasEnd (Text.trimEnd line ++ String.ofList space) := by
        rw [hasEnd_append_iff (Or.inr head), or_iff_left (not_hasEnd_of_notMem noSlash)]
    _ ↔ HasEnd line := by rw [← parts]

theorem hasEnd_commentLine (line : String) : HasEnd (commentLine line) ↔ HasEnd line := by
  unfold commentLine
  split
  · rename_i blank
    have noSlash : '/' ∉ line.toList := slash_notMem_of_blank (List.all_eq_true.mp blank)
    exact iff_of_false (not_hasEnd_of_notMem (by decide)) (not_hasEnd_of_notMem noSlash)
  · rw [hasEnd_starLine, hasEnd_trimEnd]

theorem head?_commentLine (line : String) : (commentLine line).toList.head? = some ' ' := by
  unfold commentLine
  split
  · rfl
  · exact head?_starLine _

/-- A comment of some lines ends before its end exactly if there is an end sign in one of them. -/
theorem isClosedOnce_comment_iff {lines : List String} (nonempty : lines ≠ []) :
    IsClosedOnce (comment .javaScript lines) ↔ ∀ line ∈ lines, ¬ HasEnd line := by
  have written : comment .javaScript lines =
      "/**\n" ++ String.join (lines.map commentLine) ++ " */\n" := by
    cases lines with
    | nil => exact absurd rfl nonempty
    | cons first rest => rfl
  rw [written, isClosedOnce_iff,
    hasEnd_join (List.forall_mem_map.mpr fun line _ => head?_commentLine line)]
  simp [hasEnd_commentLine]

/-! ## Types of arguments and answers -/

theorem hasEnd_parameterLine {name : String} (noSlash : '/' ∉ name.toList) (text : String) :
    HasEnd ("@param \x7b" ++ text ++ "\x7d " ++ name) ↔ HasEnd text := by
  rw [hasEnd_append_fence_append (by decide), or_iff_left (not_hasEnd_of_notMem noSlash),
    hasEnd_fence_append (by decide)]

/-- The lines that tell types have the end signs of the types. -/
theorem hasEnd_typeLines {arguments : Arguments} {returnType : String} :
    (∃ line ∈ arguments.typeLines returnType, HasEnd line) ↔
      (∃ first ∈ arguments.first?, HasEnd (first.type.render .javaScript)) ∨
        (∃ type ∈ arguments.path?, HasEnd (type.render .javaScript)) ∨ HasEnd returnType := by
  have ofFirst : ∀ first : FirstArgument, HasEnd ("@param \x7b" ++ first.type.render .javaScript ++
      "\x7d " ++ if first.defaultEmpty || first.optional then
        "[" ++ RequestParameters.firstName ++ "]" else RequestParameters.firstName) ↔
      HasEnd (first.type.render .javaScript) := by
    intro first
    apply hasEnd_parameterLine
    split <;> decide
  have ofPath : ∀ type : TypeExpr, HasEnd ("@param \x7b" ++ type.render .javaScript ++ "\x7d " ++
      RequestParameters.pathName) ↔ HasEnd (type.render .javaScript) :=
    fun type => hasEnd_parameterLine (by decide) _
  have ofAnswer : HasEnd ("@returns \x7b" ++ returnType ++ "\x7d") ↔ HasEnd returnType :=
    hasEnd_enclosed (by decide) (by decide) returnType
  simp only [Arguments.typeLines, List.mem_append, Option.mem_toList, Option.map_eq_some_iff,
    List.mem_singleton, or_and_right, exists_or, exists_exists_and_eq_and, exists_eq_left,
    ofFirst, ofPath, ofAnswer, or_assoc, Option.mem_def]

/-- What a document says about an operation in prose ends no comment. -/
theorem hasEnd_commentLines {operation : Operation} {arguments : Arguments}
    {returnType : String} :
    (∃ line ∈ commentLines operation .javaScript arguments returnType, HasEnd line) ↔
      ∃ line ∈ arguments.typeLines returnType, HasEnd line := by
  have parts : commentLines operation .javaScript arguments returnType =
      commentLines operation .typeScript arguments returnType ++
        arguments.typeLines returnType := by
    simp [commentLines]
  rw [parts]
  constructor
  · rintro ⟨line, member, inLine⟩
    rcases List.mem_append.mp member with isProse | isType
    · exact absurd inLine (commentBody_of_mem_commentLines isProse).noEnd
    · exact ⟨line, isType, inLine⟩
  · rintro ⟨line, isType, inLine⟩
    exact ⟨line, List.mem_append_right _ isType, inLine⟩

end Request

/-! ## Operations -/

/-- A strategy that tells what a function returns by the type of the answer and by nothing that has
an end sign in it. -/
def RequestStrategy.KeepsEnds (strategy : RequestStrategy) : Prop :=
  ∀ answer, HasEnd (strategy.returnType answer) ↔ HasEnd answer

theorem RequestStrategy.keepsEnds_of_mem_builtin {strategy : RequestStrategy}
    (member : strategy ∈ StrategyRegistry.builtin.strategies) : strategy.KeepsEnds := by
  rw [StrategyRegistry.strategies_builtin] at member
  rcases List.mem_cons.mp member with rfl | isFetch
  · exact hasEnd_enclosed (by decide +kernel) (by decide)
  · rw [List.mem_singleton.mp isFetch]
    exact hasEnd_enclosed (by decide) (by decide)

namespace Operation

variable {operation : Operation} {resolver : TypeResolver}

theorem isResolved_of_mem_writtenTypes (writes : resolver.WritesImports) {type : TypeExpr}
    (written : type ∈ operation.writtenTypes resolver) : type.IsResolved False := by
  rw [writtenTypes, List.mem_append, List.mem_append, List.mem_singleton] at written
  rcases written with (ofFirst | isPath) | rfl
  · obtain ⟨first, isFirst, rfl⟩ := Option.map_eq_some_iff.mp (Option.mem_toList.mp ofFirst)
    exact RequestParameters.isResolved_firstArgument? writes first isFirst
  · exact RequestParameters.isResolved_pathType? writes _ type (Option.mem_toList.mp isPath)
  · exact isResolved_resolvedResponse writes

/-- The comment in front of a request function ends before its end exactly if there is an end sign
in a text of a type that the function is written with. -/
theorem isClosedOnce_comment_iff (writes : resolver.WritesImports) {strategy : RequestStrategy}
    (keepsEnds : strategy.KeepsEnds) :
    IsClosedOnce (operation.comment resolver .javaScript strategy) ↔
      ∀ type ∈ operation.writtenTypes resolver, ¬ type.HasEndInside := by
  -- In plain modules there is a comment in any case: what is returned is always told.
  have someLine : Request.commentLines operation .javaScript (operation.arguments resolver)
      (strategy.returnType ((operation.resolvedResponse resolver).render .javaScript)) ≠ [] := by
    simp [Request.commentLines, Request.Arguments.typeLines]
  have ofLines : (∃ line ∈ Request.commentLines operation .javaScript (operation.arguments resolver)
      (strategy.returnType ((operation.resolvedResponse resolver).render .javaScript)),
      HasEnd line) ↔
      ∃ type ∈ operation.writtenTypes resolver, HasEnd (type.render .javaScript) := by
    rw [Request.hasEnd_commentLines, Request.hasEnd_typeLines, keepsEnds]
    simp only [writtenTypes, List.mem_append, Option.mem_toList, Option.map_eq_some_iff,
      List.mem_singleton, or_and_right, exists_or, exists_exists_and_eq_and, exists_eq_left,
      or_assoc, Option.mem_def, ResolvedType.render]
  have rendered : (∃ type ∈ operation.writtenTypes resolver, HasEnd (type.render .javaScript)) ↔
      ∃ type ∈ operation.writtenTypes resolver, type.HasEndInside :=
    exists_congr fun type => and_congr_right fun written =>
      (isResolved_of_mem_writtenTypes writes written).hasEnd_render
  rw [comment, Request.isClosedOnce_comment_iff someLine]
  simpa using not_congr (ofLines.trans rendered)

end Operation

/-! ## Compiled documents -/

namespace Compile

/-- The comment that defines a declared type, and the one in front of a request function, end at
their end and nowhere before exactly if no key and no literal in the types that they tell has an end
sign in it. Descriptions and summaries do not count. -/
theorem isClosedOnce_comments_iff {document : Document} {declared : List DeclaredSchema}
    (normalized : DeclaredSchema.normalize document.definitions = .ok declared)
    {strategy : RequestStrategy} (keepsEnds : strategy.KeepsEnds) :
    (∀ definition ∈ definitions declared,
      IsClosedOnce definition.javaScript ↔
        ∀ text ∈ definition.resolved.type.texts, ¬ HasEnd text) ∧
      ∀ operation : Operation,
        IsClosedOnce (operation.comment (requestResolver declared) .javaScript strategy) ↔
          ∀ type ∈ operation.writtenTypes (requestResolver declared), ∀ text ∈ type.texts,
            ¬ HasEnd text := by
  have noneInside : ∀ type : TypeExpr,
      ¬ type.HasEndInside ↔ ∀ text ∈ type.texts, ¬ HasEnd text := by
    intro type
    rw [TypeExpr.HasEndInside]
    push Not
    rfl
  constructor
  · intro definition member
    obtain ⟨d, isDeclared, rfl⟩ := List.mem_map.mp member
    have valid := DeclaredSchema.isValidIdentifier_of_normalize normalized d isDeclared
    have resolved : ((definitionResolver declared).typeOf d.source.schema).IsResolved False :=
      TypeResolver.isResolved_typeOf (Or.inl rfl) d.source.schema False.elim
    exact (Definition.isClosedOnce_javaScript_iff (Naming.isName_of_isValidIdentifier valid)
      resolved).trans (noneInside _)
  · intro operation
    have writes : (requestResolver declared).WritesImports := Or.inr ⟨_, rfl⟩
    rw [Operation.isClosedOnce_comment_iff writes keepsEnds]
    exact forall₂_congr fun type _ => noneInside type

/-! ## Choices of marks -/

/-- A choice between literals, with an end sign in its description. -/
def markSchema (values : List String) : Schema :=
  .mk (.literals (values.map .string)) (some "left */ right") none

/-- The only definition is a choice of marks. -/
def markDocument (values : List String) : Document :=
  { definitions := [⟨"Mark", markSchema values⟩] }

/-- The definition as it is declared. -/
def markDeclared (values : List String) : List DeclaredSchema :=
  [⟨"Mark", ⟨"Mark", markSchema values⟩⟩]

/-- An operation that answers with a choice of marks. -/
def markOperation (values : List String) : Operation :=
  { path := "/marks"
    method := .get
    summary? := some "one */ two"
    response? := some (markSchema values) }

theorem keepsEnds_axios : RequestStrategy.axios.KeepsEnds := by
  apply RequestStrategy.keepsEnds_of_mem_builtin
  rw [StrategyRegistry.strategies_builtin]
  exact List.mem_cons_self

theorem isClosedOnce_comments_iff_apart :
    (∀ definition ∈ definitions (markDeclared ["*", "/"]),
      IsClosedOnce definition.javaScript) ∧
      IsClosedOnce ((markOperation ["*", "/"]).comment (requestResolver (markDeclared ["*", "/"]))
        .javaScript .axios) := by
  have normalized : DeclaredSchema.normalize (markDocument ["*", "/"]).definitions =
      .ok (markDeclared ["*", "/"]) := rfl
  obtain ⟨ofDefinitions, ofOperations⟩ := isClosedOnce_comments_iff normalized keepsEnds_axios
  have apart : ∀ definition ∈ definitions (markDeclared ["*", "/"]),
      ∀ text ∈ definition.resolved.type.texts, ¬ HasEnd text := by decide +kernel
  constructor
  · intro definition member
    exact (ofDefinitions definition member).mpr (apart definition member)
  · refine (ofOperations (markOperation ["*", "/"])).mpr ?_
    decide +kernel

/-- A literal with an end sign ends both comments early. -/
theorem not_isClosedOnce_marks :
    DeclaredSchema.normalize (markDocument ["*/"]).definitions = .ok (markDeclared ["*/"]) ∧
      (∃ definition ∈ definitions (markDeclared ["*/"]), ¬ IsClosedOnce definition.javaScript) ∧
      ¬ IsClosedOnce ((markOperation ["*/"]).comment (requestResolver (markDeclared ["*/"]))
        .javaScript .axios) := by
  let definition :=
    define (definitionResolver (markDeclared ["*/"])) ⟨"Mark", ⟨"Mark", markSchema ["*/"]⟩⟩
  have hasEnd : HasEnd "*/" := by decide +kernel
  refine ⟨rfl, ⟨definition, List.mem_cons_self, ?_⟩, ?_⟩
  · have isName : Naming.IsName "Mark" := Naming.isName_of_isValidIdentifier (by decide)
    have resolved : definition.resolved.type.IsResolved False := .literals False.elim
    rw [Definition.isClosedOnce_javaScript_iff isName resolved, not_not]
    exact ⟨"*/", List.mem_cons_self, hasEnd⟩
  · have writes : (requestResolver (markDeclared ["*/"])).WritesImports := Or.inr ⟨_, rfl⟩
    have written : TypeExpr.literals ["*/"] ∈
        (markOperation ["*/"]).writtenTypes (requestResolver (markDeclared ["*/"])) :=
      List.mem_append_right _ (List.mem_singleton_self _)
    intro closed
    have noEnd := (Operation.isClosedOnce_comment_iff writes keepsEnds_axios).mp closed
    exact noEnd _ written ⟨"*/", List.mem_cons_self, hasEnd⟩

end Compile

end TypedClient

/-
# Blocks of generated modules

Every unit of a typed module is a block, and so are the lines in front of the units:
the imports of a strategy and those of the declarations.
-/

import TypedClient.Compile.Basic
import TypedClient.Proofs.Declaration.Emit
import TypedClient.Proofs.Request.Function

namespace TypedClient

open Layout

/-! ## Declarations -/

/-- A declaration is a block. -/
theorem Definition.block_typeScript {definition : Definition} {plain : Prop}
    (valid : Naming.isValidIdentifier definition.name = true)
    (resolved : definition.resolved.type.IsResolved plain) :
    Block definition.typeScript.toList := by
  refine ⟨emitted_typeScript valid resolved, ?_⟩
  rw [typeScript, String.toList_append]
  split
  · exact ⟨_ ++ _, '}', by rw [String.toList_append, List.append_assoc]; rfl, by decide⟩
  · exact ⟨_ ++ _, ';', by rw [String.toList_append, List.append_assoc]; rfl, by decide⟩

/-! ## Imports -/

/-- An import is a block of one line. -/
theorem block_import {names path : List Char} (isNames : Piece names []) (isPath : Piece path []) :
    Block (Module.closeBlock
      ("import ".toList ++ (names ++ (" from ".toList ++ (path ++ [';']))))) := by
  have word : Piece "import ".toList [] := Piece.plain rfl
  have origin : Piece " from ".toList [] := Piece.plain rfl
  have semicolon : Piece [';'] [] := Piece.plain rfl
  have piece := word.append_closed (isNames.append_closed
    (origin.append_closed (isPath.append_closed semicolon)))
  have ends : EndsPlainly
      ("import ".toList ++ (names ++ (" from ".toList ++ (path ++ [';'])))) :=
    (((endsPlainly_append_singleton path).prepend _).prepend _).prepend _
  exact block_line ⟨piece, startsPlainly_cons _, ends, rfl⟩

/-- The imports of a built-in strategy are a block, if there are any. -/
theorem RequestStrategy.block_header {strategy : RequestStrategy}
    (member : strategy ∈ StrategyRegistry.builtin.strategies)
    (notBlank : Text.isBlank (strategy.header .typeScript) = false) :
    Block (Module.closeBlock (strategy.header .typeScript).toList) := by
  rw [StrategyRegistry.strategies_builtin] at member
  rcases List.mem_cons.mp member with rfl | isFetch
  · have default : Piece "axios, ".toList [] := Piece.plain rfl
    have answer : Piece "AxiosResponse".toList [] := Piece.plain rfl
    have named : Piece "\x7b AxiosResponse \x7d".toList [] := answer.braced
    have shape : (axios.header .typeScript).toList = "import ".toList ++
        ("axios, \x7b AxiosResponse \x7d".toList ++ (" from ".toList ++
          ((Naming.quoteLiteral "axios").toList ++ [';']))) := by decide
    rw [shape]
    exact block_import (default.append_closed named) (piece_quoteLiteral "axios")
  · rw [List.mem_singleton.mp isFetch] at notBlank
    exact absurd notBlank (by decide)

namespace RequestFunction

theorem piece_importEntry {name : String} (isName : Naming.IsName name) (declared : NameSet) :
    Piece (importEntry (Naming.importAliases declared) name).toList [] := by
  have word : Piece " as ".toList [] := Piece.plain rfl
  unfold importEntry
  split
  · rename_i localName chosen
    have isAlias := Naming.isName_of_lookup_importAliases chosen
    rw [String.toList_append, String.toList_append]
    exact ((piece_of_isName isName).append_closed word).append_closed (piece_of_isName isAlias)
  · exact piece_of_isName isName

/-- The imports of declarations are a block, if there are any. -/
theorem block_importBlock {imports : NameSet} (areNames : ∀ name ∈ imports, Naming.IsName name)
    (declared : NameSet)
    (notBlank : Text.isBlank (importBlock imports .typeScript "./interface"
      (Naming.importAliases declared)) = false) :
    Block (Module.closeBlock (importBlock imports .typeScript "./interface"
      (Naming.importAliases declared)).toList) := by
  have word : Piece "type ".toList [] := Piece.plain rfl
  have path : StringBody "./interface".toList := ⟨by decide, rfl⟩
  have list : Piece (", ".intercalate
      (imports.toList.map (importEntry (Naming.importAliases declared)))).toList [] := by
    apply piece_intercalate (by decide)
    intro text isText
    obtain ⟨name, isImport, rfl⟩ := List.mem_map.mp isText
    exact piece_importEntry (areNames name isImport) declared
  have block := block_import (word.append_closed list.braced) path.quoted
  unfold importBlock at notBlank ⊢
  split at notBlank
  · exact absurd notBlank (by decide)
  · rename_i nonempty
    rw [if_neg nonempty]
    simpa using block

end RequestFunction

/-! ## Modules -/

namespace Compile

variable {config : CompileConfig} {declared : List DeclaredSchema}

/-- The declarations module consists of blocks. -/
theorem block_typesModule (typeScript : config.language = .typeScript)
    (valid : ∀ d ∈ declared, Naming.isValidIdentifier d.identifier = true) :
    Block (typesModule config declared).text.toList := by
  have units : Block ((definitions declared).foldl
      (fun module definition => module.addUnit definition.name (definition.emit .typeScript))
      ((Module.start config.typesFile .declarations).addRaw Module.preamble)).text.toList := by
    apply block_foldl_addUnit (block_start _ _)
    intro definition member
    obtain ⟨d, isDeclared, rfl⟩ := List.mem_map.mp member
    have resolved : ((definitionResolver declared).typeOf d.source.schema).IsResolved False :=
      TypeResolver.isResolved_typeOf (Or.inl rfl) d.source.schema False.elim
    exact (Definition.block_typeScript (valid d isDeclared) resolved).closed
  have empty : Block (Module.closeBlock "export \x7b\x7d;".toList) := by
    have word : Piece "export ".toList [] := Piece.plain rfl
    have braces : Piece ['{', '}'] [] := Piece.nil.enclosed (c := '{') rfl rfl
    have semicolon : Piece [';'] [] := Piece.plain rfl
    have piece := word.append_closed (braces.append_closed semicolon)
    exact block_line ⟨piece, startsPlainly_cons _, endsPlainly_of_getLast? rfl, rfl⟩
  rw [typesModule, Module.declarations, typeScript]
  split
  · exact block_addRaw units fun _ => empty
  · exact units

/-- The request module of a built-in strategy consists of blocks. -/
theorem block_requestsModule {strategy : RequestStrategy} {operations : List Operation}
    (builtin : strategy ∈ StrategyRegistry.builtin.strategies)
    (typeScript : config.language = .typeScript) (noHeader : config.template.header? = none)
    (unchanged : config.template.substitutions = [])
    (path : config.interfaceImportPath = "./interface")
    (emittable : ∀ operation ∈ operations, operation.IsEmittable config.naming) :
    Block (requestsModule config strategy declared
      (requestFunctions config strategy declared operations)).text.toList := by
  have writes : (requestResolver declared).WritesImports := Or.inr ⟨_, rfl⟩
  have areNames : ∀ name ∈ RequestFunction.allImports
      (requestFunctions config strategy declared operations), Naming.IsName name := by
    intro name member
    obtain ⟨function, isFunction, inImports⟩ := RequestFunction.mem_allImports.mp member
    obtain ⟨operation, -, rfl⟩ := List.mem_map.mp isFunction
    exact Operation.forall_mem_imports (fun _ _ => TypeResolver.isName_of_target?) name inImports
  rw [requestsModule, typeScript, noHeader, path]
  refine block_foldl_addUnit ?_ fun function member => ?_
  · exact block_addRaw (block_addRaw (block_start _ _) (RequestStrategy.block_header builtin))
      (RequestFunction.block_importBlock areNames _)
  · obtain ⟨operation, isOperation, rfl⟩ := List.mem_map.mp member
    exact (Operation.block_requestFunction (RequestStrategy.isKept_of_mem_builtin builtin)
      typeScript unchanged writes (emittable operation isOperation)).closed

end Compile

end TypedClient

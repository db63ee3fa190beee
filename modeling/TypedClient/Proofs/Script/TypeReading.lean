/-
# Reading back the tokens of a type

The tokens of a type tree are read as that tree. Parentheses stand around a
composite type wherever a tighter sign could reach into it, which is what reading
needs: inside brackets a type is read whole, and beside other members or in front
of array brackets a grouped type is read as one item. Both facts are proved
together, by induction on the tree.
-/

import TypedClient.Proofs.Script.TypeSyntax

namespace TypedClient.Script

/-! ## Tokens of a type -/

namespace TypeTree

/-- Whether a tree is several members side by side. -/
def isComposite : TypeTree → Bool
  | union _ | intersection _ => true
  | _ => false

/-- The tokens of a member beside others, given its tokens alone. -/
def grouped (type : TypeTree) (tokens : List TypeToken) : List TypeToken :=
  if type.isComposite then .sign '(' :: (tokens ++ [.sign ')']) else tokens

end TypeTree

/-- Items with a sign between them. -/
def separated (sign : Char) (items : List (List TypeToken)) : List TypeToken :=
  List.intercalate [.sign sign] items

mutual

/-- The tokens of a type. -/
def TypeTree.tokens : TypeTree → List TypeToken
  | .name name => [.name name]
  | .literal value => [.literal value]
  | .generic name arguments =>
    .name name :: .sign '<' :: (separated ',' (tokensOfEach arguments) ++ [.sign '>'])
  | .array item => item.grouped item.tokens ++ [.sign '[', .sign ']']
  | .object fields => .sign '{' :: (separated ';' (tokensOfFields fields) ++ [.sign '}'])
  | .union members => separated '|' (tokensOfMembers members)
  | .intersection members => separated '&' (tokensOfMembers members)

/-- The tokens of several types, each as it stands alone. -/
def tokensOfEach : List TypeTree → List (List TypeToken)
  | [] => []
  | type :: rest => type.tokens :: tokensOfEach rest

/-- The tokens of several types, each as it stands beside others. -/
def tokensOfMembers : List TypeTree → List (List TypeToken)
  | [] => []
  | type :: rest => type.grouped type.tokens :: tokensOfMembers rest

/-- The tokens of a field. -/
def TypeTreeField.tokens : TypeTreeField → List TypeToken
  | .mk key optional type =>
    (if Naming.needsQuotes key then .literal key else .name key) ::
      ((if optional then [.sign '?'] else []) ++ .sign ':' :: type.tokens)

/-- The tokens of several fields. -/
def tokensOfFields : List TypeTreeField → List (List TypeToken)
  | [] => []
  | field :: rest => field.tokens :: tokensOfFields rest

end

/-- The tokens of a type beside others. -/
def TypeTree.memberTokens (type : TypeTree) : List TypeToken :=
  type.grouped type.tokens

theorem tokensOfEach_eq_map (types : List TypeTree) :
    tokensOfEach types = types.map TypeTree.tokens := by
  induction types with
  | nil => rfl
  | cons type rest ih => rw [tokensOfEach, ih, List.map_cons]

theorem tokensOfMembers_eq_map (types : List TypeTree) :
    tokensOfMembers types = types.map TypeTree.memberTokens := by
  induction types with
  | nil => rfl
  | cons type rest ih => rw [tokensOfMembers, ih, List.map_cons, TypeTree.memberTokens]

theorem tokensOfFields_eq_map (fields : List TypeTreeField) :
    tokensOfFields fields = fields.map TypeTreeField.tokens := by
  induction fields with
  | nil => rfl
  | cons field rest ih => rw [tokensOfFields, ih, List.map_cons]

/-- A tree that the grammar can give: compositions have several members, and type
arguments are not empty. -/
inductive TypeTree.IsProper : TypeTree → Prop
  | name (name : String) : IsProper (.name name)
  | literal (value : String) : IsProper (.literal value)
  | generic (name : String) {arguments : List TypeTree} (nonempty : arguments ≠ [])
      (proper : ∀ argument ∈ arguments, IsProper argument) : IsProper (.generic name arguments)
  | array {item : TypeTree} (proper : IsProper item) : IsProper (.array item)
  | object {fields : List TypeTreeField} (proper : ∀ field ∈ fields, IsProper field.type) :
      IsProper (.object fields)
  | union {members : List TypeTree} (several : 2 ≤ members.length)
      (proper : ∀ member ∈ members, IsProper member) : IsProper (.union members)
  | intersection {members : List TypeTree} (several : 2 ≤ members.length)
      (proper : ∀ member ∈ members, IsProper member) : IsProper (.intersection members)

/-! ## Reading separated items -/

theorem separated_cons_cons (sign : Char) (first second : List TypeToken)
    (rest : List (List TypeToken)) :
    separated sign (first :: second :: rest) =
      first ++ .sign sign :: separated sign (second :: rest) := by
  rw [separated, List.intercalate_cons_cons, List.append_assoc]
  rfl

theorem readSeparated_separated {α : Type} {sign : Char} {readItem : TokenReader α}
    {tokens : α → List TypeToken} {items : List α} {rest : List TypeToken} {count : Nat}
    (nonempty : items ≠ []) (bound : items.length ≤ count)
    (ends : rest.head? ≠ some (.sign sign))
    (reads : ∀ item ∈ items, ∀ after, after.head? = some (.sign sign) ∨ after = rest →
      readItem (tokens item ++ after) = some (item, after)) :
    readSeparated sign readItem count (separated sign (items.map tokens) ++ rest) =
      some (items, rest) := by
  induction items generalizing count with
  | nil => exact absurd rfl nonempty
  | cons item items ih =>
      obtain ⟨count, rfl⟩ : ∃ smaller, count = smaller + 1 :=
        ⟨count - 1, (Nat.sub_add_cancel (Nat.one_le_of_lt bound)).symm⟩
      cases items with
      | nil =>
          have read := reads item List.mem_cons_self rest (Or.inr rfl)
          rw [List.map_singleton, separated, List.intercalate_singleton, readSeparated, read]
          cases rest with
          | nil => rfl
          | cons token rest =>
              cases token with
              | sign c =>
                  have differs : c ≠ sign := fun same => ends (by rw [same]; rfl)
                  simp [differs]
              | name name => rfl
              | literal value => rfl
      | cons next items =>
          have read := reads item List.mem_cons_self
            (.sign sign :: (separated sign ((next :: items).map tokens) ++ rest)) (Or.inl rfl)
          have tail := ih (List.cons_ne_nil next items) (Nat.le_of_succ_le_succ bound)
            fun other member => reads other (List.mem_cons_of_mem item member)
          rw [List.map_cons, List.map_cons, separated_cons_cons, List.append_assoc,
            List.cons_append, ← List.map_cons, readSeparated, read]
          simp only [if_true]
          rw [tail]
          rfl

theorem length_le_separated (sign : Char) (items : List (List TypeToken)) :
    items.length ≤ (separated sign items).length + 1 := by
  induction items with
  | nil => exact Nat.zero_le _
  | cons first rest ih =>
      cases rest with
      | nil => simp
      | cons second rest =>
          rw [separated_cons_cons]
          simp only [List.length_cons, List.length_append] at ih ⊢
          omega

/-- Items are read up to the first token after them that is not their sign. -/
theorem readItems_separated {α : Type} {sign : Char} {readItem : TokenReader α}
    {tokens : α → List TypeToken} {items : List α} {rest : List TypeToken}
    (nonempty : items ≠ []) (ends : rest.head? ≠ some (.sign sign))
    (reads : ∀ item ∈ items, ∀ after, after.head? = some (.sign sign) ∨ after = rest →
      readItem (tokens item ++ after) = some (item, after)) :
    readItems sign readItem (separated sign (items.map tokens) ++ rest) = some (items, rest) := by
  have bound := length_le_separated sign (items.map tokens)
  rw [List.length_map] at bound
  refine readSeparated_separated nonempty ?_ ends reads
  rw [List.length_append]
  omega

theorem length_le_of_mem_separated (sign : Char) {item : List TypeToken}
    {items : List (List TypeToken)} (member : item ∈ items) :
    item.length ≤ (separated sign items).length := by
  induction items with
  | nil => cases member
  | cons first rest ih =>
      cases rest with
      | nil =>
          rw [List.mem_singleton.mp member]
          simp [separated]
      | cons second rest =>
          rw [separated_cons_cons, List.length_append, List.length_cons]
          rcases List.mem_cons.mp member with rfl | later
          · omega
          · have := ih later
            omega

/-! ## Reading types -/

/-- The tokens that would be read on into a type before them. -/
def continuations : List TypeToken :=
  [.sign '|', .sign '&', .sign '[', .sign '<']

/-- A tree is read as one member beside others, with the array brackets after it. -/
def TypeTree.ReadsAsMember (depth : Nat) (tree : TypeTree) : Prop :=
  ∀ rest : List TypeToken, rest.head? ≠ some (.sign '<') →
    readPostfix (readType depth) (tree.memberTokens ++ rest) = some (readArrays tree rest)

/-- How a tree is read: whole inside brackets, and as one member beside others. -/
structure TypeTree.Reads (tree : TypeTree) : Prop where
  whole : ∀ {depth : Nat} {rest : List TypeToken}, tree.tokens.length ≤ depth →
    (∀ token ∈ continuations, rest.head? ≠ some token) →
    readType depth (tree.tokens ++ rest) = some (tree, rest)
  member : ∀ {depth : Nat}, tree.memberTokens.length ≤ depth + 1 → tree.ReadsAsMember depth

/-- Any other token ends a type. -/
theorem head?_ne_of_not_continuation {token : TypeToken} {rest : List TypeToken}
    (ending : token ∉ continuations) (starts : rest.head? = some token) :
    ∀ other ∈ continuations, rest.head? ≠ some other := by
  intro other listed same
  rw [starts] at same
  cases same
  exact ending listed

theorem readArrays_of_head? {item : TypeTree} {rest : List TypeToken}
    (ends : rest.head? ≠ some (.sign '[')) : readArrays item rest = (item, rest) := by
  unfold readArrays
  split
  · exact absurd rfl ends
  · rfl

theorem readPrimary_name {readInner : TokenReader TypeTree} {name : String}
    {rest : List TypeToken} (ends : rest.head? ≠ some (.sign '<')) :
    readPrimary readInner (.name name :: rest) = some (.name name, rest) := by
  rw [readPrimary]
  rintro after rfl
  exact ends rfl

theorem TypeTreeField.length_tokens_type_le (field : TypeTreeField) :
    field.type.tokens.length ≤ field.tokens.length := by
  obtain ⟨key, optional, type⟩ := field
  simp only [TypeTreeField.type, TypeTreeField.tokens, List.length_cons, List.length_append]
  omega

/-- A field does not start with a sign. -/
theorem TypeTreeField.tokens_append_ne_sign (field : TypeTreeField) (c : Char)
    (rest after : List TypeToken) : field.tokens ++ rest ≠ .sign c :: after := by
  obtain ⟨key, optional, type⟩ := field
  rw [TypeTreeField.tokens]
  split
  · simp
  · simp

theorem separated_fields_append_ne_sign {fields : List TypeTreeField} (nonempty : fields ≠ [])
    (c : Char) (rest after : List TypeToken) :
    separated ';' (fields.map TypeTreeField.tokens) ++ rest ≠ .sign c :: after := by
  match fields with
  | [] => exact absurd rfl nonempty
  | [field] =>
      rw [List.map_singleton, separated, List.intercalate_singleton]
      exact field.tokens_append_ne_sign c rest after
  | field :: next :: others =>
      rw [List.map_cons, List.map_cons, separated_cons_cons, List.append_assoc]
      exact field.tokens_append_ne_sign c _ after

/-- A field is read if its type is. -/
theorem readField_tokens {readInner : TokenReader TypeTree} {field : TypeTreeField}
    {rest : List TypeToken}
    (reads : readInner (field.type.tokens ++ rest) = some (field.type, rest)) :
    readField readInner (field.tokens ++ rest) = some (field, rest) := by
  obtain ⟨key, optional, type⟩ := field
  rw [TypeTreeField.type] at reads
  by_cases quoted : Naming.needsQuotes key
  · cases optional with
    | true => simp [TypeTreeField.tokens, quoted, readField, readFieldType, reads]
    | false => simp [TypeTreeField.tokens, quoted, readField, readFieldType, reads]
  · cases optional with
    | true => simp [TypeTreeField.tokens, quoted, readField, readFieldType, reads]
    | false => simp [TypeTreeField.tokens, quoted, readField, readFieldType, reads]

theorem sideBySide_of_length {compose : List TypeTree → TypeTree} {members : List TypeTree}
    (several : 2 ≤ members.length) : sideBySide compose members = compose members := by
  rcases members with _ | ⟨first, _ | ⟨second, rest⟩⟩
  · rfl
  · exact absurd several (Nat.not_succ_le_self 1)
  · rfl

/-- The members of an intersection are read up to a token that is no continuation
of it. -/
theorem readIntersection_separated {depth : Nat} {members : List TypeTree}
    {rest : List TypeToken} (nonempty : members ≠ [])
    (reads : ∀ member ∈ members, member.ReadsAsMember depth)
    (ends : ∀ token ∈ continuations, token ≠ .sign '|' → rest.head? ≠ some token) :
    readIntersection (readType depth)
        (separated '&' (members.map TypeTree.memberTokens) ++ rest) =
      some (sideBySide .intersection members, rest) := by
  have each : readItems '&' (readPostfix (readType depth))
      (separated '&' (members.map TypeTree.memberTokens) ++ rest) = some (members, rest) := by
    refine readItems_separated nonempty (ends _ (by decide) (by decide)) ?_
    intro member isMember after stops
    have stops : after.head? ≠ some (.sign '<') ∧ after.head? ≠ some (.sign '[') := by
      rcases stops with another | rfl
      · rw [another]
        decide
      · exact ⟨ends _ (by decide) (by decide), ends _ (by decide) (by decide)⟩
    rw [reads member isMember after stops.1, readArrays_of_head? stops.2]
  rw [readIntersection, each]
  rfl

/-- The members of a union are read up to a token that is no continuation of a type. -/
theorem readType_separated {depth : Nat} (tokens : TypeTree → List TypeToken)
    {members : List TypeTree} {rest : List TypeToken} (nonempty : members ≠ [])
    (reads : ∀ member ∈ members, ∀ {after : List TypeToken},
      (∀ token ∈ continuations, token ≠ .sign '|' → after.head? ≠ some token) →
      readIntersection (readType depth) (tokens member ++ after) = some (member, after))
    (ends : ∀ token ∈ continuations, rest.head? ≠ some token) :
    readType (depth + 1) (separated '|' (members.map tokens) ++ rest) =
      some (sideBySide .union members, rest) := by
  have each : readItems '|' (readIntersection (readType depth))
      (separated '|' (members.map tokens) ++ rest) = some (members, rest) := by
    refine readItems_separated nonempty (ends _ (by decide)) ?_
    intro member isMember after stops
    apply reads member isMember
    intro token listed other
    rcases stops with another | rfl
    · rw [another]
      exact fun same => other (Option.some.inj same).symm
    · exact ends token listed
  rw [readType, readUnion, each]
  rfl

/-- A member alone is an intersection. -/
theorem TypeTree.ReadsAsMember.readIntersection {depth : Nat} {tree : TypeTree}
    {rest : List TypeToken} (reads : tree.ReadsAsMember depth)
    (ends : ∀ token ∈ continuations, token ≠ .sign '|' → rest.head? ≠ some token) :
    readIntersection (readType depth) (tree.memberTokens ++ rest) = some (tree, rest) := by
  have single := readIntersection_separated (List.cons_ne_nil tree [])
    (List.forall_mem_singleton.mpr reads) ends
  rwa [List.map_singleton, separated, List.intercalate_singleton] at single

/-- An intersection alone is a union. -/
theorem readType_of_readIntersection {depth : Nat} {tree : TypeTree}
    {rest tokens : List TypeToken}
    (reads : ∀ {after : List TypeToken},
      (∀ token ∈ continuations, token ≠ .sign '|' → after.head? ≠ some token) →
      readIntersection (readType depth) (tokens ++ after) = some (tree, after))
    (ends : ∀ token ∈ continuations, rest.head? ≠ some token) :
    readType (depth + 1) (tokens ++ rest) = some (tree, rest) := by
  have single := readType_separated (fun _ => tokens) (List.cons_ne_nil tree [])
    (List.forall_mem_singleton.mpr reads) ends
  rwa [List.map_singleton, separated, List.intercalate_singleton] at single

/-! ## Every proper type -/

namespace TypeTree

/-- Any type has a token, so that reading it takes a level. -/
theorem IsProper.exists_smaller_depth {tree : TypeTree} (proper : tree.IsProper) {depth : Nat}
    (bound : tree.tokens.length ≤ depth) : ∃ smaller, depth = smaller + 1 := by
  have several_pos : ∀ (sign : Char) {members : List TypeTree}, 2 ≤ members.length →
      0 < (separated sign (tokensOfMembers members)).length := by
    intro sign members several
    have many := length_le_separated sign (tokensOfMembers members)
    rw [tokensOfMembers_eq_map, List.length_map] at many
    rw [tokensOfMembers_eq_map]
    omega
  have positive : 0 < tree.tokens.length := by
    cases proper with
    | union several proper => exact several_pos '|' several
    | intersection several proper => exact several_pos '&' several
    | _ => simp [tokens]
  exact ⟨depth - 1, (Nat.sub_add_cancel (positive.trans_le bound)).symm⟩

/-- A type that stands beside others as it stands alone is read whole if it is
read as a member. -/
theorem Reads.of_member {tree : TypeTree} (proper : tree.IsProper)
    (simple : tree.isComposite = false)
    (member : ∀ {depth : Nat} {rest : List TypeToken}, tree.tokens.length ≤ depth + 1 →
      rest.head? ≠ some (.sign '<') →
      readPostfix (readType depth) (tree.tokens ++ rest) = some (readArrays tree rest)) :
    tree.Reads := by
  have alone : tree.memberTokens = tree.tokens := by simp [memberTokens, grouped, simple]
  have reads : ∀ {depth : Nat}, tree.memberTokens.length ≤ depth + 1 →
      tree.ReadsAsMember depth := by
    intro depth bound rest ends
    rw [alone] at bound ⊢
    exact member bound ends
  refine ⟨?_, reads⟩
  intro depth rest bound ends
  obtain ⟨depth, rfl⟩ := proper.exists_smaller_depth bound
  rw [← alone] at bound ⊢
  exact readType_of_readIntersection (reads bound).readIntersection ends

/-- A type of several members is read in parentheses if it is read whole. -/
theorem Reads.of_whole {tree : TypeTree} (composite : tree.isComposite = true)
    (whole : ∀ {depth : Nat} {rest : List TypeToken}, tree.tokens.length ≤ depth →
      (∀ token ∈ continuations, rest.head? ≠ some token) →
      readType depth (tree.tokens ++ rest) = some (tree, rest)) : tree.Reads where
  whole := whole
  member := by
    intro depth bound rest ends
    simp only [memberTokens, grouped, composite, if_true] at bound ⊢
    rw [List.length_cons, List.length_append, List.length_singleton] at bound
    rw [List.cons_append, List.append_assoc, List.singleton_append, readPostfix, readPrimary,
      whole (by omega) (head?_ne_of_not_continuation (by decide) rfl)]
    rfl

theorem Reads.array {item : TypeTree} (proper : item.IsProper) (reads : item.Reads) :
    (array item).Reads := by
  refine Reads.of_member (.array proper) rfl fun {depth rest} bound ends => ?_
  rw [tokens, List.length_append, ← memberTokens] at bound
  rw [tokens, ← memberTokens, List.append_assoc,
    reads.member (Nat.le_of_add_right_le bound) _ (by simp)]
  rfl

theorem Reads.generic (name : String) {arguments : List TypeTree} (nonempty : arguments ≠ [])
    (proper : ∀ argument ∈ arguments, argument.IsProper)
    (reads : ∀ argument ∈ arguments, argument.Reads) : (generic name arguments).Reads := by
  refine Reads.of_member (.generic name nonempty proper) rfl fun {depth rest} bound ends => ?_
  simp only [tokens, tokensOfEach_eq_map, List.length_cons, List.length_append] at bound
  have each : readItems ',' (readType depth)
      (separated ',' (arguments.map TypeTree.tokens) ++ .sign '>' :: rest) =
        some (arguments, .sign '>' :: rest) := by
    refine readItems_separated nonempty (by simp) ?_
    intro argument isArgument after stops
    have short := length_le_of_mem_separated ','
      (List.mem_map_of_mem (f := TypeTree.tokens) isArgument)
    refine (reads argument isArgument).whole (by omega) ?_
    rcases stops with another | rfl
    · exact head?_ne_of_not_continuation (by decide) another
    · exact head?_ne_of_not_continuation (by decide) rfl
  simp only [tokens, tokensOfEach_eq_map, List.cons_append, List.append_assoc, List.nil_append]
  rw [readPostfix, readPrimary, each]
  rfl

/-- A type in the braces of an object is read field by field. -/
theorem Reads.object {fields : List TypeTreeField}
    (proper : ∀ field ∈ fields, field.type.IsProper)
    (reads : ∀ field ∈ fields, field.type.Reads) : (object fields).Reads := by
  refine Reads.of_member (.object proper) rfl fun {depth rest} bound ends => ?_
  simp only [tokens, tokensOfFields_eq_map, List.length_cons, List.length_append] at bound
  simp only [tokens, tokensOfFields_eq_map, List.cons_append, List.append_assoc, List.nil_append]
  by_cases empty : fields = []
  · rw [empty]
    rfl
  · have each : readItems ';' (readField (readType depth))
        (separated ';' (fields.map TypeTreeField.tokens) ++ .sign '}' :: rest) =
          some (fields, .sign '}' :: rest) := by
      refine readItems_separated empty (by simp) ?_
      intro field isField after stops
      have short := length_le_of_mem_separated ';'
        (List.mem_map_of_mem (f := TypeTreeField.tokens) isField)
      have smaller := field.length_tokens_type_le
      refine readField_tokens ((reads field isField).whole (by omega) ?_)
      rcases stops with another | rfl
      · exact head?_ne_of_not_continuation (by decide) another
      · exact head?_ne_of_not_continuation (by decide) rfl
    rw [readPostfix, readPrimary, each]
    · rfl
    · intro after same
      exact separated_fields_append_ne_sign empty '}' _ after same

/-- The members' own bounds, from the bound of all of them. -/
theorem readsAsMember_of_bound {sign : Char} {members : List TypeTree} {depth : Nat}
    (reads : ∀ member ∈ members, member.Reads)
    (bound : (separated sign (tokensOfMembers members)).length ≤ depth + 1) :
    ∀ member ∈ members, member.ReadsAsMember depth := by
  intro member isMember
  rw [tokensOfMembers_eq_map] at bound
  have short := length_le_of_mem_separated sign
    (List.mem_map_of_mem (f := memberTokens) isMember)
  exact (reads member isMember).member (short.trans bound)

theorem Reads.union {members : List TypeTree} (several : 2 ≤ members.length)
    (proper : ∀ member ∈ members, member.IsProper)
    (reads : ∀ member ∈ members, member.Reads) : (union members).Reads := by
  refine Reads.of_whole rfl fun {depth rest} bound ends => ?_
  obtain ⟨depth, rfl⟩ := (IsProper.union several proper).exists_smaller_depth bound
  have each := readsAsMember_of_bound reads bound
  rw [tokens, tokensOfMembers_eq_map, readType_separated memberTokens
    (List.ne_nil_of_length_pos (Nat.zero_lt_of_lt several))
    (fun member isMember => (each member isMember).readIntersection) ends,
    sideBySide_of_length several]

theorem Reads.intersection {members : List TypeTree} (several : 2 ≤ members.length)
    (proper : ∀ member ∈ members, member.IsProper)
    (reads : ∀ member ∈ members, member.Reads) : (intersection members).Reads := by
  refine Reads.of_whole rfl fun {depth rest} bound ends => ?_
  obtain ⟨depth, rfl⟩ := (IsProper.intersection several proper).exists_smaller_depth bound
  have each := readsAsMember_of_bound reads bound
  refine readType_of_readIntersection (fun {after} stops => ?_) ends
  rw [tokens, tokensOfMembers_eq_map, readIntersection_separated
    (List.ne_nil_of_length_pos (Nat.zero_lt_of_lt several)) each stops,
    sideBySide_of_length several]

/-- Every proper type is read as itself. -/
theorem IsProper.reads {tree : TypeTree} (proper : tree.IsProper) : tree.Reads := by
  induction proper with
  | name name =>
      refine Reads.of_member (.name name) rfl fun {depth rest} bound ends => ?_
      rw [tokens, List.singleton_append, readPostfix, readPrimary_name ends]
      rfl
  | literal value =>
      refine Reads.of_member (.literal value) rfl fun {depth rest} bound ends => ?_
      rw [tokens, List.singleton_append, readPostfix, readPrimary]
      rfl
  | generic name nonempty proper ih => exact Reads.generic name nonempty proper ih
  | array proper ih => exact Reads.array proper ih
  | object proper ih => exact Reads.object proper ih
  | union several proper ih => exact Reads.union several proper ih
  | intersection several proper ih => exact Reads.intersection several proper ih

end TypeTree

end TypedClient.Script

/-
# Local names

An import alias is made from the name of a global by a word in front and
underscores behind, so it has the shape of an identifier like the name itself. The
underscores keep it away from every name taken before, so no two definitions of a
module share a local name.
-/

import TypedClient.Naming.Alias
import TypedClient.Proofs.Naming.Identifier

namespace TypedClient.Naming

/-! ## Shapes -/

theorem IsName.append {name ending : String} (isName : IsName name)
    (parts : ∀ c ∈ ending.toList, isIdentifierPart c = true) : IsName (name ++ ending) := by
  obtain ⟨⟨first, rest, shape, start⟩, nameParts⟩ := isName
  refine ⟨⟨first, rest ++ ending.toList, by simp [shape], start⟩, ?_⟩
  intro c member
  rw [String.toList_append, List.mem_append] at member
  exact member.elim (nameParts c) (parts c)

theorem isName_freshName {taken : List String} {name : String} (isName : IsName name) :
    IsName (freshName taken name) := by
  fun_induction freshName taken name with
  | case1 taken name isTaken ih => exact ih (isName.append (List.all_eq_true.mp rfl))
  | case2 taken name free => exact isName

theorem isName_of_lookup_chooseAliases {taken names : List String} {name localName : String}
    (globals : ∀ other ∈ names, other ∈ globalNames)
    (found : (chooseAliases taken names).lookup name = some localName) : IsName localName := by
  induction names generalizing taken with
  | nil => cases found
  | cons first rest ih =>
      rw [chooseAliases, List.lookup_cons] at found
      split at found
      · cases found
        have parts : ∀ other ∈ globalNames, other.toList.all isIdentifierPart = true := by
          decide
        have api : IsName "Api" := isName_of_all rfl rfl rfl
        have prefixed : IsName ("Api" ++ first) :=
          api.append (List.all_eq_true.mp (parts first (globals first List.mem_cons_self)))
        exact isName_freshName prefixed
      · exact ih (fun other member => globals other (List.mem_cons_of_mem first member)) found

/-- Every import alias has the shape of an identifier. -/
theorem isName_of_lookup_importAliases {declared : NameSet} {name localName : String}
    (found : (importAliases declared).lookup name = some localName) : IsName localName := by
  refine isName_of_lookup_chooseAliases (fun other member => ?_) found
  have inGlobals := (List.mem_filter.mp member).2
  exact List.contains_iff_mem.mp inGlobals

/-! ## Distinct names -/

theorem length_le_freshName (taken : List String) (name : String) :
    name.length ≤ (freshName taken name).length := by
  fun_induction freshName taken name with
  | case1 taken name isTaken ih =>
      rw [String.length_append] at ih
      exact Nat.le_of_add_right_le ih
  | case2 taken name free => exact Nat.le_refl name.length

/-- A fresh name is not taken. -/
theorem freshName_notMem (taken : List String) (name : String) :
    freshName taken name ∉ taken := by
  fun_induction freshName taken name with
  | case1 taken name isTaken ih =>
      -- The search goes on among longer names, so it cannot end with the name it has struck.
      have longer := length_le_freshName (taken.erase name) (name ++ "_")
      have differs : freshName (taken.erase name) (name ++ "_") ≠ name := by
        intro same
        rw [same, String.length_append] at longer
        exact absurd longer (Nat.not_succ_le_self name.length)
      exact fun member => ih ((List.mem_erase_of_ne differs).mpr member)
  | case2 taken name free => exact free

/-- A chosen alias is none of the names taken before. -/
theorem notMem_of_lookup_chooseAliases {taken names : List String} {name localName : String}
    (found : (chooseAliases taken names).lookup name = some localName) : localName ∉ taken := by
  induction names generalizing taken with
  | nil => cases found
  | cons first rest ih =>
      rw [chooseAliases, List.lookup_cons] at found
      split at found
      · cases found
        exact freshName_notMem taken ("Api" ++ first)
      · exact fun member => ih found (List.mem_cons_of_mem _ member)

/-- Different names have different aliases. -/
theorem eq_of_lookup_chooseAliases {taken names : List String} {a b localName : String}
    (ofA : (chooseAliases taken names).lookup a = some localName)
    (ofB : (chooseAliases taken names).lookup b = some localName) : a = b := by
  induction names generalizing taken with
  | nil => cases ofA
  | cons first rest ih =>
      rw [chooseAliases, List.lookup_cons] at ofA ofB
      split at ofA <;> split at ofB
      · rename_i _ isA _ isB
        exact (beq_iff_eq.mp isA).trans (beq_iff_eq.mp isB).symm
      · cases ofA
        exact absurd List.mem_cons_self (notMem_of_lookup_chooseAliases ofB)
      · cases ofB
        exact absurd List.mem_cons_self (notMem_of_lookup_chooseAliases ofA)
      · exact ih ofA ofB

/-- Every listed name gets an alias. -/
theorem notMem_of_lookup_chooseAliases_eq_none {taken names : List String} {name : String}
    (missing : (chooseAliases taken names).lookup name = none) : name ∉ names := by
  induction names generalizing taken with
  | nil => exact List.not_mem_nil
  | cons first rest ih =>
      rw [chooseAliases, List.lookup_cons] at missing
      split at missing
      · cases missing
      · rename_i differs
        exact List.not_mem_cons_of_ne_of_not_mem (ne_of_beq_false differs) (ih missing)

/-- A declared name is never written like a global. -/
theorem notMem_globalNames_of_lookup_importAliases {declared : NameSet} {name : String}
    (isDeclared : name ∈ declared) :
    ((importAliases declared).lookup name).getD name ∉ globalNames := by
  cases found : (importAliases declared).lookup name with
  | none =>
      intro isGlobal
      have isListed : name ∈ declared.toList.filter (globalNames.contains ·) :=
        List.mem_filter.mpr ⟨isDeclared, List.contains_iff_mem.mpr isGlobal⟩
      exact notMem_of_lookup_chooseAliases_eq_none found isListed
  | some localName =>
      exact fun isGlobal => notMem_of_lookup_chooseAliases found (List.mem_append_right _ isGlobal)

/-- Declared names that are not the same are written differently. -/
theorem eq_of_lookup_importAliases {declared : NameSet} {a b : String} (aDeclared : a ∈ declared)
    (bDeclared : b ∈ declared)
    (same : ((importAliases declared).lookup a).getD a =
      ((importAliases declared).lookup b).getD b) : a = b := by
  have isAway : ∀ {name localName}, (importAliases declared).lookup name = some localName →
      localName ∉ declared := fun found member =>
    notMem_of_lookup_chooseAliases found (List.mem_append_left globalNames member)
  cases ofA : (importAliases declared).lookup a with
  | none =>
      cases ofB : (importAliases declared).lookup b with
      | none =>
          rw [ofA, ofB] at same
          exact same
      | some chosen =>
          rw [ofA, ofB] at same
          cases same
          exact absurd aDeclared (isAway ofB)
  | some chosen =>
      cases ofB : (importAliases declared).lookup b with
      | none =>
          rw [ofA, ofB] at same
          cases same
          exact absurd bDeclared (isAway ofA)
      | some other =>
          rw [ofA, ofB] at same
          cases same
          exact eq_of_lookup_chooseAliases ofA ofB

end TypedClient.Naming

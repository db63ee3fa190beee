/-
# Sets of names

A finite set of names, kept as a strictly increasing list. Equal sets are equal values, and going
through a set visits its names in code point order, which is the order of import lists.
-/

namespace TypedClient

/-- Inserts a name into an increasing list, unless it is there. -/
def insertName (name : String) : List String → List String
  | [] => [name]
  | first :: rest =>
    if name = first then first :: rest
    else if name < first then name :: first :: rest
    else first :: insertName name rest

theorem mem_insertName {name other : String} {names : List String} :
    other ∈ insertName name names ↔ other = name ∨ other ∈ names := by
  induction names with
  | nil => simp [insertName]
  | cons first rest ih =>
    simp only [insertName]
    split
    · rename_i h; subst h; simp
    · split
      · simp
      · simp only [List.mem_cons, ih]
        constructor
        · rintro (h | h | h) <;> simp [h]
        · rintro (h | h | h) <;> simp [h]

theorem pairwise_insertName {name : String} {names : List String}
    (sorted : names.Pairwise (· < ·)) : (insertName name names).Pairwise (· < ·) := by
  induction names with
  | nil => simp [insertName]
  | cons first rest ih =>
    rw [List.pairwise_cons] at sorted
    simp only [insertName]
    split
    · exact List.pairwise_cons.2 sorted
    · rename_i differs
      split
      · rename_i below
        refine List.pairwise_cons.2 ⟨?_, List.pairwise_cons.2 sorted⟩
        intro other member
        rcases List.mem_cons.1 member with rfl | inRest
        · exact below
        · exact Std.lt_trans below (sorted.1 other inRest)
      · rename_i notBelow
        refine List.pairwise_cons.2 ⟨?_, ih sorted.2⟩
        intro other member
        rcases mem_insertName.1 member with rfl | inRest
        · exact Std.lt_of_le_of_ne (Std.not_lt.mp notBelow) (Ne.symm differs)
        · exact sorted.1 other inRest

/-- A finite set of names in increasing order. -/
structure NameSet where
  toList : List String
  sorted : toList.Pairwise (· < ·) := by simp

namespace NameSet

/-- The set without names. -/
def empty : NameSet := { toList := [] }

instance : EmptyCollection NameSet := ⟨empty⟩

instance : Inhabited NameSet := ⟨empty⟩

instance : Membership String NameSet := ⟨fun names name => name ∈ names.toList⟩

instance (name : String) (names : NameSet) : Decidable (name ∈ names) :=
  inferInstanceAs (Decidable (name ∈ names.toList))

/-- The set with one more name. -/
def insert (names : NameSet) (name : String) : NameSet :=
  ⟨insertName name names.toList, pairwise_insertName names.sorted⟩

/-- The names of a list. -/
def ofList (names : List String) : NameSet :=
  names.foldl insert empty

/-- The names of either set. -/
def union (a b : NameSet) : NameSet :=
  b.toList.foldl insert a

/-- Whether there are no names. -/
def isEmpty (names : NameSet) : Bool :=
  names.toList.isEmpty

theorem mem_insert {names : NameSet} {name other : String} :
    other ∈ names.insert name ↔ other = name ∨ other ∈ names :=
  mem_insertName

end NameSet

end TypedClient

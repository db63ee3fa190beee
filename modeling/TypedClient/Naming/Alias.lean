/-
# Import aliases

Definitions that bear the name of a global are imported under another local name, so that the
global keeps its meaning inside the request module.
-/

import TypedClient.NameSet
import TypedClient.Naming.Identifier

namespace TypedClient.Naming

/-- The first of `name`, `name_`, `name__`, … that is not taken. A name found taken is struck from
the list, so the search ends. -/
def freshName (taken : List String) (name : String) : String :=
  if name ∈ taken then freshName (taken.erase name) (name ++ "_") else name
termination_by taken.length
decreasing_by
  rename_i isTaken
  have := List.length_pos_of_mem isTaken
  rw [List.length_erase_of_mem isTaken]
  omega

/-- Local names by definition name. -/
abbrev Aliases := List (String × String)

/-- Chooses an alias for each listed name in turn, away from the names taken so far. -/
def chooseAliases : (taken names : List String) → Aliases
  | _, [] => []
  | taken, name :: rest =>
    let chosen := freshName taken ("Api" ++ name)
    (name, chosen) :: chooseAliases (chosen :: taken) rest

/-- The aliases of the declared names that would hide a global. -/
def importAliases (declared : NameSet) : Aliases :=
  chooseAliases (declared.toList ++ globalNames)
    (declared.toList.filter (globalNames.contains ·))

end TypedClient.Naming

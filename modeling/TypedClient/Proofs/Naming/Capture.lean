/-
# Imports capture nothing

A declared name that is a global is imported under an alias. The search for the alias puts
underscores behind a first guess until the name is neither declared, nor chosen before, nor a
global. Every step makes the name longer and only finitely many names are taken, so the search ends,
whatever is declared. Local names are then distinct, and none of them is a global.
-/

import Mathlib.Data.Set.Card
import TypedClient.Proofs.Naming.Alias
import TypedClient.Types.Resolve

namespace TypedClient.Naming

variable {taken : Set String} {name next : String}

/-! ## Searching for a free name -/

/-- A step of the search: a taken name gets one more underscore. -/
inductive Lengthens (taken : Set String) : String → String → Prop
  | append {name : String} (isTaken : name ∈ taken) : Lengthens taken name (name ++ "_")

/-- The search that starts at a name ends at `found`, and only taken names lie before it. -/
def SearchEnds (taken : Set String) (name found : String) : Prop :=
  Relation.ReflTransGen (Lengthens taken) name found ∧ found ∉ taken

/-- The taken names that the search may still meet. -/
def takenAhead (taken : Set String) (name : String) : Set String :=
  {other | other ∈ taken ∧ name.length ≤ other.length}

/-- A step leaves a taken name behind. -/
theorem ncard_takenAhead_lt (finite : taken.Finite) (step : Lengthens taken name next) :
    (takenAhead taken next).ncard < (takenAhead taken name).ncard := by
  cases step with
  | append isTaken =>
    have longer : (name ++ "_").length = name.length + 1 := String.length_append name "_"
    have fewer : takenAhead taken (name ++ "_") ⊂ takenAhead taken name := by
      refine (Set.ssubset_iff_of_subset ?_).mpr ⟨name, ⟨isTaken, le_rfl⟩, ?_⟩
      · rintro other ⟨otherTaken, ahead⟩
        exact ⟨otherTaken, by omega⟩
      · rintro ⟨-, ahead⟩
        omega
    exact Set.ncard_lt_ncard fewer (finite.subset fun other ahead => ahead.1)

/-- No search goes on for ever. -/
theorem wellFounded_lengthens (finite : taken.Finite) :
    WellFounded fun next name => Lengthens taken name next :=
  Subrelation.wf (fun step => ncard_takenAhead_lt finite step)
    (InvImage.wf (fun name => (takenAhead taken name).ncard) Nat.lt_wfRel.wf)

theorem Lengthens.mono {fewer : Set String} (subset : fewer ⊆ taken)
    (step : Lengthens fewer name next) : Lengthens taken name next := by
  cases step with
  | append isTaken => exact .append (subset isTaken)

/-- The search may strike the names that it has passed, since it never comes back to them. -/
theorem searchEnds_freshName (taken : List String) (name : String) :
    SearchEnds {other | other ∈ taken} name (freshName taken name) := by
  refine ⟨?_, freshName_notMem taken name⟩
  fun_induction freshName taken name with
  | case1 taken name isTaken ih =>
    have struck : {other | other ∈ taken.erase name} ⊆ {other | other ∈ taken} :=
      fun _ => List.mem_of_mem_erase
    have search := Relation.ReflTransGen.mono (fun _ _ => Lengthens.mono struck) _ _ ih
    exact .head (.append isTaken) search
  | case2 taken name free => exact .refl

/-! ## Choosing aliases in turn -/

/-- The names an alias has to avoid after some aliases are chosen. -/
def takenNames (declared : NameSet) (chosen : List String) : Set String :=
  {name | name ∈ declared ∨ name ∈ chosen ∨ name ∈ globalNames}

theorem finite_takenNames (declared : NameSet) (chosen : List String) :
    (takenNames declared chosen).Finite := by
  refine (List.finite_toSet (declared.toList ++ chosen ++ globalNames)).subset ?_
  intro name isTaken
  have inLists : name ∈ declared.toList ∨ name ∈ chosen ∨ name ∈ globalNames := isTaken
  simpa [or_assoc] using inLists

theorem map_fst_chooseAliases (taken names : List String) :
    (chooseAliases taken names).map Prod.fst = names := by
  induction names generalizing taken with
  | nil => rfl
  | cons first rest ih => rw [chooseAliases, List.map_cons, ih]

/-- Each alias is found by a search that avoids the aliases before it. -/
theorem searchEnds_of_chooseAliases {taken names : List String} {before after : Aliases}
    {name found : String}
    (chosen : chooseAliases taken names = before ++ (name, found) :: after) :
    SearchEnds {other | other ∈ taken ∨ other ∈ before.map Prod.snd} ("Api" ++ name) found := by
  induction names generalizing taken before with
  | nil => simp [chooseAliases] at chosen
  | cons first rest ih =>
    rw [chooseAliases] at chosen
    cases before with
    | nil =>
      cases chosen
      simpa using searchEnds_freshName taken ("Api" ++ name)
    | cons entry before =>
      obtain ⟨isEntry, later⟩ := List.cons.inj chosen
      have same : {other | other ∈ freshName taken ("Api" ++ first) :: taken ∨
            other ∈ before.map Prod.snd} =
          {other | other ∈ taken ∨ other ∈ (entry :: before).map Prod.snd} := by
        ext other
        rw [← isEntry]
        simp only [Set.mem_ofPred_eq, List.mem_cons, List.map_cons]
        tauto
      exact same ▸ ih later

/-- Aliases are distinct, and none is taken. -/
theorem nodup_map_snd_chooseAliases (taken names : List String) :
    ((chooseAliases taken names).map Prod.snd).Nodup ∧
      ∀ found ∈ (chooseAliases taken names).map Prod.snd, found ∉ taken := by
  induction names generalizing taken with
  | nil => exact ⟨List.nodup_nil, nofun⟩
  | cons first rest ih =>
    obtain ⟨distinct, free⟩ := ih (freshName taken ("Api" ++ first) :: taken)
    rw [chooseAliases, List.map_cons, List.nodup_cons, List.forall_mem_cons]
    refine ⟨⟨fun again => free _ again List.mem_cons_self, distinct⟩,
      freshName_notMem taken ("Api" ++ first), ?_⟩
    exact fun found member isTaken => free found member (List.mem_cons_of_mem _ isTaken)

/-! ## Import aliases -/

section ImportAliases

variable (declared : NameSet)

theorem nodup_map_fst_importAliases : ((importAliases declared).map Prod.fst).Nodup := by
  rw [importAliases, map_fst_chooseAliases]
  have distinct : declared.toList.Nodup := declared.sorted.imp Std.ne_of_lt
  exact distinct.filter _

/-- Exactly the declared names that are globals have an alias. -/
theorem mem_map_fst_importAliases_iff {name : String} :
    name ∈ (importAliases declared).map Prod.fst ↔ name ∈ declared ∧ name ∈ globalNames := by
  rw [importAliases, map_fst_chooseAliases, List.mem_filter, List.contains_iff_mem]
  exact Iff.rfl

theorem searchEnds_of_importAliases {before after : Aliases} {name found : String}
    (chosen : importAliases declared = before ++ (name, found) :: after) :
    SearchEnds (takenNames declared (before.map Prod.snd)) ("Api" ++ name) found := by
  have same : {other | other ∈ declared.toList ++ globalNames ∨ other ∈ before.map Prod.snd} =
      takenNames declared (before.map Prod.snd) := by
    ext other
    simp only [takenNames, Set.mem_ofPred_eq, List.mem_append, or_assoc]
    rw [or_comm (a := other ∈ globalNames)]
    exact Iff.rfl
  exact same ▸ searchEnds_of_chooseAliases chosen

/-- Import aliases capture nothing. No search for an alias goes on for ever, and each alias is where
the search ends that starts at its first guess. Exactly the declared names that are globals have an
alias, each one. Aliases are distinct, and none is declared or a global; so the local names of the
declared names are distinct, and none is a global. -/
theorem importAliases_captureFree :
    (∀ before name found after, importAliases declared = before ++ (name, found) :: after →
      let taken := takenNames declared (before.map Prod.snd)
      WellFounded (fun next name => Lengthens taken name next) ∧
        SearchEnds taken ("Api" ++ name) found) ∧
    ((importAliases declared).map Prod.fst).Nodup ∧
    (∀ name, name ∈ (importAliases declared).map Prod.fst ↔
      name ∈ declared ∧ name ∈ globalNames) ∧
    ((importAliases declared).map Prod.snd).Nodup ∧
    (∀ found ∈ (importAliases declared).map Prod.snd,
      found ∉ declared ∧ found ∉ globalNames) ∧
    ∀ resolver : TypeResolver, resolver.aliases = importAliases declared →
      Set.InjOn resolver.localName {name | name ∈ declared} ∧
        ∀ name ∈ declared, resolver.localName name ∉ globalNames := by
  obtain ⟨distinct, free⟩ := nodup_map_snd_chooseAliases (declared.toList ++ globalNames)
    (declared.toList.filter (globalNames.contains ·))
  refine ⟨?_, nodup_map_fst_importAliases declared,
    fun _ => mem_map_fst_importAliases_iff declared, distinct, ?_, ?_⟩
  · intro before name found after chosen
    exact ⟨wellFounded_lengthens (finite_takenNames declared _),
      searchEnds_of_importAliases declared chosen⟩
  · intro found isAlias
    have notTaken := free found isAlias
    rw [List.mem_append, not_or] at notTaken
    exact notTaken
  · intro resolver areAliases
    have isLocal : ∀ name, resolver.localName name =
        ((importAliases declared).lookup name).getD name := by
      intro name
      rw [TypeResolver.localName, areAliases]
    constructor
    · intro a aDeclared b bDeclared same
      rw [isLocal, isLocal] at same
      exact eq_of_lookup_importAliases aDeclared bDeclared same
    · intro name isDeclared
      rw [isLocal]
      exact notMem_globalNames_of_lookup_importAliases isDeclared

end ImportAliases

/-- The first guesses for `Error` are declared too. -/
def guessedNames : NameSet := .ofList ["Error", "ApiError", "ApiError_", "Promise"]

/-- The search passes over both guesses, and nobody mistakes an error for another. -/
theorem importAliases_captureFree_guessed :
    importAliases guessedNames = [("Error", "ApiError__"), ("Promise", "ApiPromise")] ∧
    SearchEnds (takenNames guessedNames []) "ApiError" "ApiError__" ∧
    SearchEnds (takenNames guessedNames ["ApiError__"]) "ApiPromise" "ApiPromise" ∧
    ("ApiError__" ∉ guessedNames ∧ "ApiError__" ∉ globalNames) ∧
    let resolver : TypeResolver := { aliases := importAliases guessedNames }
    resolver.localName "Error" ≠ resolver.localName "ApiError" ∧
      resolver.localName "Promise" ∉ globalNames := by
  have aliases : importAliases guessedNames =
      [("Error", "ApiError__"), ("Promise", "ApiPromise")] := by decide +kernel
  obtain ⟨search, -, -, -, apart, imported⟩ := importAliases_captureFree guessedNames
  have isAlias : "ApiError__" ∈ (importAliases guessedNames).map Prod.snd := by
    rw [aliases]
    decide
  obtain ⟨distinct, away⟩ := imported { aliases := importAliases guessedNames } rfl
  have errorDeclared : "Error" ∈ guessedNames := by decide
  have guessDeclared : "ApiError" ∈ guessedNames := by decide
  have promiseDeclared : "Promise" ∈ guessedNames := by decide
  exact ⟨aliases, (search [] "Error" _ _ aliases).2, (search [_] "Promise" _ [] aliases).2,
    apart _ isAlias, distinct.ne errorDeclared guessDeclared (by decide),
    away _ promiseDeclared⟩

end TypedClient.Naming

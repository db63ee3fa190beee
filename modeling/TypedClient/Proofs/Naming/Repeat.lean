/-
# Repeated names

Items are read in order, and each may have a name. The first item whose name is taken and the item
that took it are the first repeat. There is one as soon as two items share a name, and then it is
the only one, so it can be reported without saying how it was found.
-/

import Mathlib.Data.List.Pairwise
import Mathlib.Data.List.Nodup

namespace TypedClient.Naming

variable {α : Type} {name? : α → Option String} {items before after : List α} {first second : α}
  {name : String}

/-! ## Items that count once -/

section

variable [BEq α] [LawfulBEq α]

theorem nodup_eraseDups : (items : List α) → items.eraseDups.Nodup
  | [] => List.nodup_nil
  | first :: rest => by
    rw [List.eraseDups_cons, List.nodup_cons]
    refine ⟨fun isLater => ?_, nodup_eraseDups _⟩
    simpa using List.mem_eraseDups.mp isLater
termination_by items => items.length
decreasing_by
  simp only [List.length_cons]
  exact Nat.lt_succ_of_le (List.length_filter_le _ _)

theorem eraseDups_concat_of_mem {item : α} (isThere : item ∈ items) :
    (items ++ [item]).eraseDups = items.eraseDups := by
  simp [List.eraseDups_append, List.removeAll, isThere]

theorem eraseDups_concat_of_notMem {item : α} (isNew : item ∉ items) :
    (items ++ [item]).eraseDups = items.eraseDups ++ [item] := by
  simp [List.eraseDups_append, List.removeAll, isNew, List.eraseDups_cons]

end

/-! ## The first repeat -/

/-- `second` is the first of the items whose name is taken, and `first` is the first of the items
that have this name. -/
def FirstRepeat (name? : α → Option String) (items : List α) (name : String) (first second : α) :
    Prop :=
  ∃ before between after, items = before ++ first :: between ++ second :: after ∧
    name? first = some name ∧ name? second = some name ∧
    (∀ item ∈ before, name? item ≠ some name) ∧
    ((before ++ first :: between).filterMap name?).Nodup

/-- Two of the items, in different places, share a name. -/
def HasRepeat (name? : α → Option String) (items : List α) : Prop :=
  ∃ a b, [a, b].Sublist items ∧ ∃ name, name? a = some name ∧ name? b = some name

/-- Names are distinct if no two of the items share one. -/
theorem nodup_filterMap_iff : (items.filterMap name?).Nodup ↔ ¬ HasRepeat name? items := by
  rw [List.Nodup, List.pairwise_filterMap, List.pairwise_iff_forall_sublist]
  constructor
  · rintro distinct ⟨a, b, inOrder, name, aName, bName⟩
    exact distinct inOrder name aName name bName rfl
  · rintro none a b inOrder name aName _ bName rfl
    exact none ⟨a, b, inOrder, name, aName, bName⟩

/-- One more item keeps the names distinct if it has none or a new one. -/
theorem nodup_filterMap_concat {item : α} (distinct : (before.filterMap name?).Nodup)
    (new : ∀ name, name? item = some name → ∀ other ∈ before, name? other ≠ some name) :
    ((before ++ [item]).filterMap name?).Nodup := by
  rw [List.filterMap_append, List.nodup_append]
  refine ⟨distinct, ?_, ?_⟩
  · cases hasName : name? item <;> simp [hasName]
  · intro taken inBefore other isOther
    obtain ⟨holder, inItems, hasTaken⟩ := List.mem_filterMap.mp inBefore
    obtain ⟨_, isItem, hasOther⟩ := List.mem_filterMap.mp isOther
    cases List.mem_singleton.mp isItem
    rintro rfl
    exact new taken hasOther holder inItems hasTaken

/-- The name that an item has and takes is no other item's. -/
theorem name?_ne_of_nodup {between : List α}
    (distinct : ((before ++ first :: between).filterMap name?).Nodup)
    (hasName : name? first = some name) :
    (∀ item ∈ before, name? item ≠ some name) ∧ ∀ item ∈ between, name? item ≠ some name := by
  rw [List.filterMap_append, List.filterMap_cons_some hasName, List.nodup_append] at distinct
  obtain ⟨-, later, apart⟩ := distinct
  constructor
  · intro item member same
    exact apart name (List.mem_filterMap.mpr ⟨item, member, same⟩) name List.mem_cons_self rfl
  · intro item member same
    exact (List.nodup_cons.mp later).1 (List.mem_filterMap.mpr ⟨item, member, same⟩)

namespace FirstRepeat

/-- An item whose name an earlier one has taken is the first repeat if nothing was repeated
before. -/
theorem of_mem (distinct : (before.filterMap name?).Nodup) (member : first ∈ before)
    (firstName : name? first = some name) (secondName : name? second = some name) :
    FirstRepeat name? (before ++ second :: after) name first second := by
  obtain ⟨front, between, rfl⟩ := List.append_of_mem member
  exact ⟨front, between, after, rfl, firstName, secondName,
    (name?_ne_of_nodup distinct firstName).1, distinct⟩

/-- Where there is a repeat, names are not distinct. -/
theorem not_nodup (repeated : FirstRepeat name? items name first second) :
    ¬ (items.filterMap name?).Nodup := by
  obtain ⟨before, between, after, rfl, firstName, secondName, -⟩ := repeated
  rw [List.append_assoc, List.cons_append]
  intro distinct
  exact (name?_ne_of_nodup distinct firstName).2 second (by simp) secondName

/-- Up to the item that repeats a name, names are distinct; no longer stretch has distinct
names. -/
theorem length_le {longer rest : List α} (member : first ∈ before)
    (firstName : name? first = some name) (secondName : name? second = some name)
    (distinct : (before.filterMap name?).Nodup) (longerDistinct : (longer.filterMap name?).Nodup)
    (same : before ++ second :: after = longer ++ rest) : longer.length ≤ before.length := by
  by_contra isLonger
  have upToSecond : before ++ [second] <+: before ++ second :: after := ⟨after, by simp⟩
  have upToLonger : longer <+: before ++ second :: after := ⟨rest, same.symm⟩
  have shorter : (before ++ [second]).length ≤ longer.length := by
    rw [List.length_append, List.length_singleton]
    omega
  have isPrefix := List.prefix_of_prefix_length_le upToSecond upToLonger shorter
  have repeated : FirstRepeat name? (before ++ [second]) name first second :=
    of_mem distinct member firstName secondName
  exact repeated.not_nodup (longerDistinct.sublist (isPrefix.sublist.filterMap name?))

/-- There is one first repeat. -/
theorem unique {otherName : String} {otherFirst otherSecond : α}
    (repeated : FirstRepeat name? items name first second)
    (other : FirstRepeat name? items otherName otherFirst otherSecond) :
    name = otherName ∧ first = otherFirst ∧ second = otherSecond := by
  obtain ⟨before, between, after, shape, firstName, secondName, -, distinct⟩ := repeated
  obtain ⟨before', between', after', same, firstName', secondName', -, distinct'⟩ := other
  rw [shape] at same
  have member : first ∈ before ++ first :: between := by simp
  have member' : otherFirst ∈ before' ++ otherFirst :: between' := by simp
  have sameLength : (before ++ first :: between).length =
      (before' ++ otherFirst :: between').length :=
    Nat.le_antisymm (length_le member' firstName' secondName' distinct' distinct same.symm)
      (length_le member firstName secondName distinct distinct' same)
  obtain ⟨samePrefix, sameRest⟩ := List.append_inj same sameLength
  cases sameRest
  cases secondName.symm.trans secondName'
  refine ⟨rfl, ?_, rfl⟩
  obtain ⟨notBefore, notBetween⟩ := name?_ne_of_nodup distinct firstName
  rw [← samePrefix] at member'
  rcases List.mem_append.mp member' with inBefore | inRest
  · exact absurd firstName' (notBefore otherFirst inBefore)
  · rcases List.mem_cons.mp inRest with rfl | inBetween
    · rfl
    · exact absurd firstName' (notBetween otherFirst inBetween)

end FirstRepeat

/-! ## Reading items under distinct names -/

/-- What becomes of items whose names must be distinct: a value if they are, and else the error
that reports the first repeat. -/
inductive DistinctOutcome {ε β : Type} (name? : α → Option String) (items : List α)
    (report : String → α → α → ε) (value : β) : Except ε β → Prop
  | distinct (distinct : (items.filterMap name?).Nodup) :
      DistinctOutcome name? items report value (.ok value)
  | repeated {name : String} {first second : α}
      (repeated : FirstRepeat name? items name first second) :
      DistinctOutcome name? items report value (.error (report name first second))

namespace DistinctOutcome

variable {ε β : Type} {report : String → α → α → ε} {value : β} {outcome : Except ε β}

/-- Reading succeeds if names are distinct. -/
theorem eq_ok_iff (holds : DistinctOutcome name? items report value outcome) {other : β} :
    outcome = .ok other ↔ (items.filterMap name?).Nodup ∧ other = value := by
  cases holds with
  | distinct distinct =>
      rw [Except.ok.injEq]
      exact ⟨fun same => ⟨distinct, same.symm⟩, fun same => same.2.symm⟩
  | repeated repeated => exact ⟨nofun, fun same => absurd same.1 repeated.not_nodup⟩

/-- Reading fails with the first repeat. -/
theorem eq_error_iff (holds : DistinctOutcome name? items report value outcome) {error : ε} :
    outcome = .error error ↔
      ∃ name first second, FirstRepeat name? items name first second ∧
        report name first second = error := by
  cases holds with
  | distinct distinct =>
      refine ⟨nofun, ?_⟩
      rintro ⟨_, _, _, repeated, -⟩
      exact absurd distinct repeated.not_nodup
  | @repeated name first second repeated =>
      rw [Except.error.injEq]
      constructor
      · exact fun same => ⟨name, first, second, repeated, same⟩
      · rintro ⟨_, _, _, other, rfl⟩
        obtain ⟨rfl, rfl, rfl⟩ := repeated.unique other
        rfl

/-- There is a first repeat, with places of its items, exactly if two items share a name. -/
theorem exists_repeat_iff {γ : Type} (holds : DistinctOutcome name? items report value outcome)
    (place : α → γ) :
    (∃ name first second a b, FirstRepeat name? items name a b ∧ place a = first ∧
        place b = second) ↔ HasRepeat name? items := by
  constructor
  · rintro ⟨name, _, _, a, b, repeated, -, -⟩
    exact not_not.mp (mt nodup_filterMap_iff.mpr repeated.not_nodup)
  · intro repeats
    cases holds with
    | distinct distinct => exact absurd repeats (nodup_filterMap_iff.mp distinct)
    | @repeated name a b repeated => exact ⟨name, place a, place b, a, b, repeated, rfl, rfl⟩

/-- Items that are made of others repeat names where those do. -/
theorem of_map {γ : Type} {f : γ → α} {items : List γ}
    (holds : DistinctOutcome name? (items.map f) report value outcome) :
    DistinctOutcome (fun item => name? (f item)) items
      (fun name first second => report name (f first) (f second)) value outcome := by
  cases holds with
  | distinct distinct =>
      rw [List.filterMap_map] at distinct
      exact .distinct distinct
  | repeated repeated =>
      obtain ⟨before, between, after, shape, firstName, secondName, new, distinct⟩ := repeated
      obtain ⟨upTo, rest, rfl, early, late⟩ := List.map_eq_append_iff.mp shape
      obtain ⟨second, after, rfl, rfl, rfl⟩ := List.map_eq_cons_iff.mp late
      obtain ⟨before, later, rfl, rfl, next⟩ := List.map_eq_append_iff.mp early
      obtain ⟨first, between, rfl, rfl, rfl⟩ := List.map_eq_cons_iff.mp next
      rw [← List.map_cons, ← List.map_append, List.filterMap_map] at distinct
      refine .repeated ⟨before, between, after, rfl, firstName, secondName, ?_, distinct⟩
      exact fun item member => new (f item) (List.mem_map_of_mem member)

end DistinctOutcome

end TypedClient.Naming

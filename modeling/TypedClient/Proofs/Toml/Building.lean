/-
# Building the tree

Reading adds one pair or table after another to a tree. Each takes its fragments into the tree and
leaves all others there, since the names of a table are distinct and what holds a pair never gives
way to another. So nothing that was written around a part of the file is lost on the way.
-/

import TypedClient.Proofs.Toml.Entries
import TypedClient.Proofs.Toml.Fragments
import Mathlib.Data.List.Nodup

namespace TypedClient.Toml

variable {inBraces : Bool} {base : List String} {name : String} {key : Key} {item old new : Item}
  {entries front back before after : Entries} {added : List Fragment}

/-! ## Trees as they are read -/

mutual

/-- The names of each table are distinct, no table in braces has a table with a header in it, and
every value stands for something. -/
def Item.IsSound (inBraces : Bool) : Item → Prop
  | .value _ _ data => data ≠ .null
  | .inlineTable _ _ _ entries => entriesSound true entries
  | .table _ entries => inBraces = false ∧ entriesSound false entries
  | .tables elements => inBraces = false ∧ elementsSound elements

/-- All entries of a table are sound, and their names are distinct. -/
def entriesSound (inBraces : Bool) : List (Key × Item) → Prop
  | [] => True
  | (key, item) :: rest =>
    item.IsSound inBraces ∧ (∀ entry ∈ rest, entry.1.name ≠ key.name) ∧ entriesSound inBraces rest

/-- All tables of an array are sound. -/
def elementsSound : List (TableHead × List (Key × Item)) → Prop
  | [] => True
  | (_, entries) :: rest => entriesSound false entries ∧ elementsSound rest

end

theorem entriesSound_iff : entriesSound inBraces entries ↔
    (∀ entry ∈ entries, entry.2.IsSound inBraces) ∧ (entries.map (·.1.name)).Nodup := by
  induction entries with
  | nil => simp [entriesSound]
  | cons entry rest ih =>
    rw [entriesSound, ih, List.forall_mem_cons, List.map_cons, List.nodup_cons]
    simp only [List.mem_map, not_exists, not_and]
    tauto

theorem elementsSound_append {first second : List (TableHead × List (Key × Item))} :
    elementsSound (first ++ second) ↔ elementsSound first ∧ elementsSound second := by
  induction first with
  | nil => simp [elementsSound]
  | cons element rest ih => rw [List.cons_append, elementsSound, elementsSound, ih, and_assoc]

theorem entriesFragments_append (inBraces : Bool) (base : List String) (front back : Entries) :
    entriesFragments inBraces base (front ++ back) =
      entriesFragments inBraces base front ++ entriesFragments inBraces base back := by
  simp only [entriesFragments_eq_flatMap, List.flatMap_append]

theorem elementsFragments_append (base : List String)
    (first second : List (TableHead × List (Key × Item))) :
    elementsFragments base (first ++ second) =
      elementsFragments base first ++ elementsFragments base second := by
  induction first with
  | nil => rfl
  | cons element rest ih =>
    rw [List.cons_append, elementsFragments, elementsFragments, ih]
    simp only [List.append_assoc]

theorem Entries.update_cons (name : String) (change : Item → Item) (key : Key) (item : Item)
    (rest : Entries) : update name change ((key, item) :: rest) =
      (key, if key.name = name then change item else item) :: rest.update name change := rfl

/-- What a name holds stands at one place, where it can be changed or taken out. -/
theorem Entries.exists_split (sound : entriesSound inBraces entries)
    (found : entries.find? name = some old) :
    ∃ front key back, entries = front ++ (key, old) :: back ∧ key.name = name ∧
      (∀ new, entries.update name (fun _ => new) = front ++ (key, new) :: back) ∧
      entries.erase name = front ++ back := by
  induction entries with
  | nil => cases found
  | cons entry rest ih =>
    obtain ⟨key, item⟩ := entry
    obtain ⟨-, others, soundRest⟩ := sound
    rw [find?_cons] at found
    by_cases isName : key.name = name
    · rw [if_pos isName] at found
      cases found
      have differ : ∀ entry ∈ rest, entry.1.name ≠ name := isName ▸ others
      refine ⟨[], key, rest, rfl, isName, fun new => ?_, ?_⟩
      · have untouched : update name (fun _ => new) rest = rest :=
          update_eq_self fun entry isEntry isIn => absurd isIn (differ entry isEntry)
        rw [update_cons, if_pos isName, untouched, List.nil_append]
      · rw [erase, List.filter_cons_of_neg (by simpa using isName)]
        exact List.filter_eq_self.mpr fun entry isEntry => decide_eq_true (differ entry isEntry)
    · rw [if_neg isName] at found
      obtain ⟨front, holder, back, rfl, isHolder, updated, erased⟩ := ih soundRest found
      refine ⟨(key, item) :: front, holder, back, rfl, isHolder, fun new => ?_, ?_⟩
      · rw [update_cons, if_neg isName, updated, List.cons_append]
      · rw [erase] at erased ⊢
        rw [List.filter_cons_of_pos (by simpa using isName), erased, List.cons_append]

theorem sound_of_find? (sound : entriesSound inBraces entries)
    (found : entries.find? name = some item) : item.IsSound inBraces := by
  obtain ⟨entry, isFound, rfl⟩ := Option.map_eq_some_iff.mp found
  exact (entriesSound_iff.mp sound).1 entry (List.mem_of_find?_eq_some isFound)

theorem entriesSound_erase (sound : entriesSound inBraces entries) :
    entriesSound inBraces (entries.erase name) := by
  obtain ⟨soundItems, distinct⟩ := entriesSound_iff.mp sound
  refine entriesSound_iff.mpr
    ⟨fun entry isEntry => ?_, distinct.sublist (List.filter_sublist.map _)⟩
  exact soundItems entry (List.mem_of_mem_filter isEntry)

/-! ## Growth -/

/-- Entries grow by fragments: they keep those that they have and get these. -/
structure Grows (inBraces : Bool) (base : List String) (before after : Entries)
    (added : List Fragment) : Prop where
  sound : entriesSound inBraces after
  fragments : (entriesFragments inBraces base after).Perm
    (entriesFragments inBraces base before ++ added)

namespace Grows

theorem append (sound : entriesSound inBraces entries) (isNew : entries.find? key.name = none)
    (soundItem : item.IsSound inBraces) :
    Grows inBraces base entries (entries ++ [(key, item)]) (item.fragments inBraces base key) where
  sound := by
    obtain ⟨soundItems, distinct⟩ := entriesSound_iff.mp sound
    refine entriesSound_iff.mpr ⟨List.forall_mem_append.mpr
      ⟨soundItems, List.forall_mem_singleton.mpr soundItem⟩, ?_⟩
    rw [List.map_append, List.map_singleton]
    have isOther : ∀ entry ∈ entries, entry.1.name ≠ key.name := by
      simpa [Entries.find?] using isNew
    refine List.nodup_append.mpr ⟨distinct, List.nodup_singleton _, ?_⟩
    rw [List.forall_mem_map]
    exact fun entry isEntry => List.forall_mem_singleton.mpr (isOther entry isEntry)
  fragments := by
    rw [entriesFragments_append, entriesFragments, entriesFragments, List.append_nil]

theorem update (sound : entriesSound inBraces entries) (found : entries.find? name = some old)
    (soundNew : new.IsSound inBraces)
    (grows : ∀ key : Key, key.name = name → (new.fragments inBraces base key).Perm
      (old.fragments inBraces base key ++ added)) :
    Grows inBraces base entries (entries.update name fun _ => new) added := by
  obtain ⟨front, key, back, rfl, isName, updated, -⟩ := Entries.exists_split sound found
  rw [updated new]
  constructor
  · obtain ⟨soundItems, distinct⟩ := entriesSound_iff.mp sound
    rw [List.forall_mem_append, List.forall_mem_cons] at soundItems
    refine entriesSound_iff.mpr ⟨?_, ?_⟩
    · rw [List.forall_mem_append, List.forall_mem_cons]
      exact ⟨soundItems.1, soundNew, soundItems.2.2⟩
    · simpa using distinct
  · simp only [entriesFragments_append, entriesFragments]
    refine (((grows key isName).append_right _).append_left _).trans ?_
    simp only [List.append_assoc]
    exact (List.perm_append_comm.append_left _).append_left _

/-- A table that moves to the end takes what it has along. -/
theorem move (sound : entriesSound inBraces entries) (found : entries.find? key.name = some old)
    (soundNew : new.IsSound inBraces)
    (grows : ∀ holder : Key, holder.name = key.name → (new.fragments inBraces base key).Perm
      (old.fragments inBraces base holder ++ added)) :
    Grows inBraces base entries (entries.erase key.name ++ [(key, new)]) added where
  sound := by
    have isGone := (Entries.Stores.erase key.name entries).found
    have appended : Grows inBraces base _ _ _ :=
      append (entriesSound_erase sound) isGone soundNew
    exact appended.sound
  fragments := by
    obtain ⟨front, holder, back, rfl, isName, -, erased⟩ := Entries.exists_split sound found
    rw [erased]
    simp only [entriesFragments_append, entriesFragments, List.append_nil]
    refine ((grows holder isName).append_left _).trans ?_
    simp only [List.append_assoc]
    refine List.Perm.append_left _ ?_
    rw [← List.append_assoc, ← List.append_assoc]
    exact List.perm_append_comm.append_right _

/-- A table grows as its entries do. -/
theorem table (grows : Grows false (base ++ [name]) before after added) (head : TableHead)
    (isName : key.name = name) : ((Item.table head after).fragments false base key).Perm
      ((Item.table head before).fragments false base key ++ added) := by
  rw [Item.fragments, Item.fragments, isName]
  simpa only [Bool.false_eq_true, if_false, List.append_assoc] using
    grows.fragments.append_left _

/-- A table in braces grows as its entries do. -/
theorem inlineTable (grows : Grows true (base ++ [name]) before after added) (dotted : Bool)
    (decor : Decor) (padding : String) (isName : key.name = name) :
    ((Item.inlineTable dotted decor padding after).fragments inBraces base key).Perm
      ((Item.inlineTable dotted decor padding before).fragments inBraces base key ++ added) := by
  rw [Item.fragments, Item.fragments, isName]
  simpa only [List.append_assoc] using grows.fragments.append_left _

theorem refl (sound : entriesSound inBraces entries) : Grows inBraces base entries entries [] :=
  ⟨sound, by rw [List.append_nil]⟩

theorem trans {middle : Entries} {more : List Fragment}
    (first : Grows inBraces base before middle added)
    (second : Grows inBraces base middle after more) :
    Grows inBraces base before after (added ++ more) where
  sound := second.sound
  fragments := by
    rw [← List.append_assoc]
    exact second.fragments.trans (first.fragments.append_right more)

theorem of_perm {more : List Fragment} (grows : Grows inBraces base before after added)
    (same : added.Perm more) : Grows inBraces base before after more :=
  ⟨grows.sound, grows.fragments.trans (same.append_left _)⟩

/-- A pair gets into the tree with its fragments. -/
theorem addPair? {isInline : Bool} {path : List Key} (soundItem : item.IsSound isInline)
    (sound : entriesSound isInline entries)
    (done : addPair? isInline path key item entries = some after) :
    Grows isInline base entries after
      (item.fragments isInline (base ++ path.map (·.name)) key) := by
  induction path generalizing base entries after with
  | nil =>
    rw [Toml.addPair?] at done
    split at done
    · cases done
    · rename_i isNew
      cases done
      rw [List.map_nil, List.append_nil]
      exact append sound (Option.not_isSome_iff_eq_none.mp isNew) soundItem
  | cons step path ih =>
    rw [Toml.addPair?] at done
    rw [List.map_cons, List.append_cons]
    split at done
    · rename_i isNew
      obtain ⟨inside, added, done⟩ := Option.bind_eq_some_iff.mp done
      cases done
      have grows : Grows isInline (base ++ [step.name]) [] inside _ := ih trivial added
      cases isInline with
      | true =>
        have appended : Grows true base entries
            (entries ++ [(step, .inlineTable true {} "" inside)]) _ :=
          append sound isNew grows.sound
        exact appended.of_perm (grows.inlineTable true {} "" rfl)
      | false =>
        have appended : Grows false base entries
            (entries ++ [(step, .table { implicit := true, dotted := true } inside)]) _ :=
          append sound isNew ⟨rfl, grows.sound⟩
        exact appended.of_perm (grows.table _ rfl)
    · rename_i head old found
      have soundTable := sound_of_find? sound found
      obtain ⟨isTree, soundOld⟩ := soundTable
      subst isTree
      split at done
      · cases done
      · obtain ⟨inside, added, done⟩ := Option.bind_eq_some_iff.mp done
        cases done
        have grows : Grows false (base ++ [step.name]) old inside _ := ih soundOld added
        exact update sound found ⟨rfl, grows.sound⟩ fun _ isName => grows.table head isName
    · rename_i dotted decor padding old found
      have soundOld : entriesSound true old := sound_of_find? sound found
      split at done
      · cases done
      · rename_i isOpen
        obtain ⟨rfl, rfl⟩ : dotted = true ∧ isInline = true := by simpa using isOpen
        obtain ⟨inside, added, done⟩ := Option.bind_eq_some_iff.mp done
        cases done
        have grows : Grows true (base ++ [step.name]) old inside _ := ih soundOld added
        exact update sound found grows.sound fun _ isName =>
          grows.inlineTable true decor padding isName
    · cases done

variable {head : TableHead} {fill : Entries → Option Entries} {filled : List String → List Fragment}

/-- What fills a table with a header grows with it. -/
theorem header (grows : Grows false (base ++ [name]) before after added)
    (shown : head.implicit = false ∧ head.dotted = false) (isName : key.name = name) :
    ((Item.table head after).fragments false base key).Perm
      (entriesFragments false (base ++ [name]) before ++
        (head.decor.fragments (base ++ [name]) .header ++ added)) := by
  rw [Item.fragments, shown.1, shown.2, isName]
  refine (grows.fragments.append_left _).trans ?_
  exact List.perm_append_comm_assoc ..

/-- What fills the last table of an array grows with it. -/
theorem elements {front : List (TableHead × List (Key × Item))}
    (grows : Grows false base before after added) :
    (elementsFragments base (front ++ [(head, after)])).Perm
      (elementsFragments base (front ++ [(head, before)]) ++ added) := by
  simp only [elementsFragments_append, elementsFragments, List.append_nil, List.append_assoc]
  exact (grows.fragments.append_left _).append_left _

/-- A table with a header is put under its own key, at the end of an array if it is one of several.
-/
theorem addTable?_nil {isElement : Bool} (shown : head.implicit = false ∧ head.dotted = false)
    (fills : ∀ base before after, entriesSound false before → fill before = some after →
      Grows false base before after (filled base))
    (sound : entriesSound false entries)
    (done : Toml.addTable? isElement head key fill [] entries = some after) :
    Grows false base entries after
      (head.decor.fragments (base ++ [key.name]) .header ++ filled (base ++ [key.name])) := by
  rw [Toml.addTable?.eq_def] at done
  dsimp only at done
  split at done
  · rename_i isNew
    obtain ⟨inside, isFilled, done⟩ := Option.bind_eq_some_iff.mp done
    cases done
    have grows := fills (base ++ [key.name]) [] inside trivial isFilled
    have appended : Grows false base entries (entries ++ [(key, .table head inside)]) _ :=
      append sound isNew ⟨rfl, grows.sound⟩
    exact appended.of_perm (grows.header shown rfl)
  · rename_i old inside found
    split at done
    · cases done
    · rename_i isImplicit
      obtain ⟨after, isFilled, done⟩ := Option.bind_eq_some_iff.mp done
      cases done
      have soundOld : Item.IsSound false (.table old inside) := sound_of_find? sound found
      have grows := fills (base ++ [key.name]) inside after soundOld.2 isFilled
      refine move sound found ⟨rfl, grows.sound⟩ fun holder isName => ?_
      have hidden : (Item.table old inside).fragments false base holder =
          entriesFragments false (base ++ [key.name]) inside := by
        have implicit : old.implicit = true := by
          simp only [Bool.or_eq_true, Bool.not_eq_true', not_or, Bool.not_eq_false] at isImplicit
          exact isImplicit.1
        rw [Item.fragments, implicit, isName]
        simp
      rw [hidden]
      exact grows.header shown rfl
  · rename_i isNew
    obtain ⟨inside, isFilled, done⟩ := Option.bind_eq_some_iff.mp done
    cases done
    have grows := fills (base ++ [key.name]) [] inside trivial isFilled
    have appended : Grows false base entries (entries ++ [(key, .tables [(head, inside)])]) _ :=
      append sound isNew ⟨rfl, grows.sound, trivial⟩
    refine appended.of_perm ?_
    simp only [Item.fragments, Bool.false_eq_true, if_false, elementsFragments, List.append_nil]
    exact grows.fragments.append_left _
  · rename_i elements found
    obtain ⟨inside, isFilled, done⟩ := Option.bind_eq_some_iff.mp done
    cases done
    have soundOld : Item.IsSound false (.tables elements) := sound_of_find? sound found
    have grows := fills (base ++ [key.name]) [] inside trivial isFilled
    have soundNew : Item.IsSound false (.tables (elements ++ [(head, inside)])) :=
      ⟨rfl, elementsSound_append.mpr ⟨soundOld.2, grows.sound, trivial⟩⟩
    refine update sound found soundNew fun holder isName => ?_
    simp only [Item.fragments, Bool.false_eq_true, if_false, elementsFragments_append,
      elementsFragments, List.append_nil, isName]
    exact (grows.fragments.append_left _).append_left _
  · cases done

/-- A table with a header gets into the tree with what surrounds the header and with what fills it.
-/
theorem addTable? {isElement : Bool} {path : List Key}
    (shown : head.implicit = false ∧ head.dotted = false)
    (fills : ∀ base before after, entriesSound false before → fill before = some after →
      Grows false base before after (filled base))
    (sound : entriesSound false entries)
    (done : addTable? isElement head key fill path entries = some after) :
    Grows false base entries after
      (head.decor.fragments (base ++ path.map (·.name) ++ [key.name]) .header ++
        filled (base ++ path.map (·.name) ++ [key.name])) := by
  induction path generalizing base entries after with
  | nil =>
    rw [List.map_nil, List.append_nil]
    exact addTable?_nil shown fills sound done
  | cons step path ih =>
    rw [Toml.addTable?] at done
    rw [List.map_cons, List.append_cons base]
    split at done
    · rename_i isNew
      obtain ⟨inside, added, done⟩ := Option.bind_eq_some_iff.mp done
      cases done
      have grows : Grows false (base ++ [step.name]) [] inside _ := ih trivial added
      have appended : Grows false base entries
          (entries ++ [(step, .table { implicit := true } inside)]) _ :=
        append sound isNew ⟨rfl, grows.sound⟩
      exact appended.of_perm (grows.table _ rfl)
    · rename_i old inside found
      obtain ⟨more, added, done⟩ := Option.bind_eq_some_iff.mp done
      cases done
      have soundOld : Item.IsSound false (.table old inside) := sound_of_find? sound found
      have grows : Grows false (base ++ [step.name]) inside more _ := ih soundOld.2 added
      exact update sound found ⟨rfl, grows.sound⟩ fun _ isName => grows.table old isName
    · rename_i elements found
      obtain ⟨⟨old, inside⟩, isLast, done⟩ := Option.bind_eq_some_iff.mp done
      obtain ⟨more, added, done⟩ := Option.bind_eq_some_iff.mp done
      cases done
      obtain ⟨front, rfl⟩ := List.getLast?_eq_some_iff.mp isLast
      have soundOld : Item.IsSound false (.tables (front ++ [(old, inside)])) :=
        sound_of_find? sound found
      obtain ⟨soundFront, soundInside, -⟩ := elementsSound_append.mp soundOld.2
      have grows : Grows false (base ++ [step.name]) inside more _ := ih soundInside added
      rw [List.dropLast_concat]
      have soundNew : Item.IsSound false (.tables (front ++ [(old, more)])) :=
        ⟨rfl, elementsSound_append.mpr ⟨soundFront, grows.sound, trivial⟩⟩
      refine update sound found soundNew fun holder isName => ?_
      simp only [Item.fragments, Bool.false_eq_true, if_false, isName]
      exact grows.elements
    · cases done

end Grows

/-! ## Statements -/

/-- The fragments of the statements of a text, those before its first header being in the table at a
path. -/
def statementsFragments (base : List String) : List Statement → List Fragment
  | [] => []
  | .header _ decor path key :: rest =>
    decor.fragments (path.map (·.name) ++ [key.name]) .header ++
      statementsFragments (path.map (·.name) ++ [key.name]) rest
  | .pair path key item :: rest =>
    item.fragments false (base ++ path.map (·.name)) key ++ statementsFragments base rest

/-- The fragments of the pairs that stand before the first header. -/
def pairsFragments (base : List String) : List Statement → List Fragment
  | .pair path key item :: rest =>
    item.fragments false (base ++ path.map (·.name)) key ++ pairsFragments base rest
  | _ => []

/-- The fragments of the headers and of the pairs under them. -/
def tablesFragments : List Statement → List Fragment
  | [] => []
  | .header _ decor path key :: rest =>
    decor.fragments (path.map (·.name) ++ [key.name]) .header ++
      pairsFragments (path.map (·.name) ++ [key.name]) rest ++ tablesFragments rest
  | .pair _ _ _ :: rest => tablesFragments rest

theorem statementsFragments_eq (base : List String) (statements : List Statement) :
    statementsFragments base statements =
      pairsFragments base statements ++ tablesFragments statements := by
  induction statements generalizing base with
  | nil => rfl
  | cons statement rest ih =>
    cases statement with
    | header isElement decor path key =>
      rw [statementsFragments, ih, tablesFragments, List.append_assoc]
      rfl
    | pair path key item =>
      rw [statementsFragments, ih, pairsFragments, tablesFragments, List.append_assoc]

/-- What a pair of a text holds is sound. -/
def Statement.IsSound : Statement → Prop
  | .header _ _ _ _ => True
  | .pair _ _ item => item.IsSound false

variable {statements : List Statement}

namespace Grows

theorem addPairs? (soundStatements : ∀ statement ∈ statements, statement.IsSound)
    (sound : entriesSound false entries) (done : addPairs? statements entries = some after) :
    Grows false base entries after (pairsFragments base statements) := by
  induction statements generalizing entries with
  | nil =>
    cases done
    exact refl sound
  | cons statement rest ih =>
    obtain ⟨soundHead, soundRest⟩ := List.forall_mem_cons.mp soundStatements
    cases statement with
    | header isElement decor path key =>
      cases done
      exact refl sound
    | pair path key item =>
      obtain ⟨middle, added, done⟩ := Option.bind_eq_some_iff.mp done
      have first : Grows false base entries middle _ := addPair? soundHead sound added
      exact first.trans (ih soundRest first.sound done)

theorem addTables? {position : Nat} (soundStatements : ∀ statement ∈ statements, statement.IsSound)
    (sound : entriesSound false entries)
    (done : addTables? position statements entries = some after) :
    Grows false [] entries after (tablesFragments statements) := by
  induction statements generalizing position entries with
  | nil =>
    cases done
    exact refl sound
  | cons statement rest ih =>
    obtain ⟨-, soundRest⟩ := List.forall_mem_cons.mp soundStatements
    cases statement with
    | header isElement decor path key =>
      obtain ⟨middle, added, done⟩ := Option.bind_eq_some_iff.mp done
      have first : Grows false [] entries middle
          (decor.fragments ([] ++ path.map (·.name) ++ [key.name]) .header ++
            pairsFragments ([] ++ path.map (·.name) ++ [key.name]) rest) :=
        addTable? ⟨rfl, rfl⟩ (fun _ _ _ soundInside => addPairs? soundRest soundInside) sound added
      rw [tablesFragments]
      exact first.trans (ih soundRest first.sound done)
    | pair path key item => exact ih soundRest sound done

end Grows

/-- The tree of statements has all their fragments and no others. -/
theorem fragments_of_statements {pairs : Entries}
    (soundStatements : ∀ statement ∈ statements, statement.IsSound)
    (addedPairs : addPairs? statements [] = some pairs)
    (addedTables : addTables? 0 statements pairs = some entries) :
    entriesSound false entries ∧
      (entriesFragments false [] entries).Perm (statementsFragments [] statements) := by
  have first : Grows false [] [] pairs _ := Grows.addPairs? soundStatements trivial addedPairs
  have second := Grows.addTables? soundStatements first.sound addedTables
  rw [statementsFragments_eq]
  exact ⟨second.sound, (first.trans second).fragments⟩

end TypedClient.Toml

/-
# Settings in a file of its user

Saving edits the document that is there. Its lines and headers can still be read again, and the new
values too. So the settings are read back from the text if the document is flat once they are in it:
comments and settings of other programs do no harm, and neither does it that tables move to other
places, since members are looked up by their names.
-/

import TypedClient.Proofs.Settings.Saving
import TypedClient.Proofs.Toml.Flat
import TypedClient.Proofs.Toml.Values

namespace TypedClient

/-! ## Members in any order -/

/-- Two values that differ in nothing but the order of members. -/
inductive Json.SameMembers : Json → Json → Prop
  | refl (value : Json) : SameMembers value value
  | object {first second : List (String × Json)}
      (names : ∀ name, first.lookup name = none ↔ second.lookup name = none)
      (members : ∀ name a b, first.lookup name = some a → second.lookup name = some b →
        SameMembers a b) :
      SameMembers (.object first) (.object second)

namespace Json.SameMembers

variable {first second : List (String × Json)} {name : String} {value other : Json}

/-- A member of an object that is the same. -/
theorem exists_lookup (same : SameMembers (.object first) (.object second))
    (found : first.lookup name = some value) :
    ∃ member, second.lookup name = some member ∧ SameMembers value member := by
  cases same with
  | refl => exact ⟨value, found, .refl value⟩
  | object names members =>
      cases isMember : second.lookup name with
      | none => cases ((names name).mpr isMember).symm.trans found
      | some member => exact ⟨member, rfl, members name value member found isMember⟩

theorem lookup_eq_none (same : SameMembers (.object first) (.object second))
    (missing : first.lookup name = none) : second.lookup name = none := by
  cases same with
  | refl => exact missing
  | object names => exact (names name).mp missing

/-- Only an object is the same as an object. -/
theorem exists_eq_object (same : SameMembers (.object first) other) :
    ∃ second, other = .object second := by
  cases same <;> exact ⟨_, rfl⟩

/-- What is no object has no order. -/
theorem eq_of_ne_object (same : SameMembers value other)
    (noObject : ∀ members, value ≠ .object members) : other = value := by
  cases same with
  | refl => rfl
  | object => exact absurd rfl (noObject _)

/-- A member that is no object is the same. -/
theorem lookup_eq (same : SameMembers (.object first) (.object second)) {value? : Option Json}
    (found : first.lookup name = value?)
    (noObject : ∀ value, value? = some value → ∀ members, value ≠ .object members) :
    second.lookup name = value? := by
  cases value? with
  | none => exact same.lookup_eq_none found
  | some value =>
      obtain ⟨member, isMember, sameMember⟩ := same.exists_lookup found
      rw [isMember, sameMember.eq_of_ne_object (noObject value rfl)]

/-- Objects with the same members in another order. -/
theorem of_perm (same : first.Perm second)
    (distinct : (first.map (·.1)).Nodup) : SameMembers (.object first) (.object second) := by
  have sameLookup (name : String) : first.lookup name = second.lookup name := by
    induction same with
    | nil => rfl
    | cons entry _ ih =>
      rw [List.map_cons, List.nodup_cons] at distinct
      obtain ⟨other, value⟩ := entry
      rw [List.lookup_cons, List.lookup_cons, ih distinct.2]
    | swap first second rest =>
      obtain ⟨first, value⟩ := first
      obtain ⟨second, other⟩ := second
      simp only [List.map_cons, List.nodup_cons, List.mem_cons, not_or] at distinct
      simp only [List.lookup_cons]
      by_cases isFirst : name == first
      · have notSecond : (name == second) = false := by
          rw [eq_of_beq isFirst]
          exact beq_false_of_ne (Ne.symm distinct.1.1)
        simp [isFirst, notSecond]
      · simp [isFirst]
    | trans one _ ihOne ihTwo =>
      rw [ihOne distinct, ihTwo ((one.map _).nodup_iff.mp distinct)]
  refine .object (fun name => by rw [sameLookup]) fun name a b isFirst isSecond => ?_
  rw [sameLookup, isSecond] at isFirst
  cases isFirst
  exact .refl a

end Json.SameMembers

namespace Toml

variable {inBraces : Bool} {name : String} {item : Item}
  {item? : Option Item} {change : Item → Item} {entries : Entries} {text : String} {data : Json}
  {fields : List (String × Option Item)}

/-! ## New entries -/

theorem isReadable_of_isBare (isBare : IsBare name) : Key.IsReadable { name } where
  text := isKeyText_of_isBare isBare
  before := nofun
  after := nofun

/-- A new value that is read back. -/
def IsNewLine (item : Item) : Prop :=
  ∃ text data, item = .value {} text data ∧ data ≠ .null ∧ IsLineValue {} text data

theorem IsNewLine.isSound (isNew : IsNewLine item) (inBraces : Bool) : item.IsSound inBraces := by
  obtain ⟨text, data, rfl, notNull, -⟩ := isNew
  exact notNull

theorem IsNewLine.isReadable (isNew : IsNewLine item) {key : Key} (isKey : key.IsReadable) :
    IsReadable (key, item) := by
  obtain ⟨text, data, rfl, -, isValue⟩ := isNew
  exact .value isKey isValue

/-! ## Edited entries -/

theorem map_name_update (name : String) (change : Item → Item) (entries : Entries) :
    (entries.update name change).map (·.1.name) = entries.map (·.1.name) := by
  rw [Entries.update, List.map_map]
  rfl

theorem entriesSound_update (sound : entriesSound inBraces entries)
    (keeps : ∀ item : Item, item.IsSound inBraces → (change item).IsSound inBraces) :
    entriesSound inBraces (entries.update name change) := by
  obtain ⟨soundItems, distinct⟩ := entriesSound_iff.mp sound
  refine entriesSound_iff.mpr ⟨fun entry isEntry => ?_, by rwa [map_name_update]⟩
  obtain ⟨old, isOld, rfl⟩ := List.mem_map.mp isEntry
  dsimp only
  split
  · exact keeps _ (soundItems old isOld)
  · exact soundItems old isOld

theorem isReadable_update_of_forall (readable : ∀ entry ∈ entries, IsReadable entry)
    (keeps : ∀ key item, IsReadable (key, item) → IsReadable (key, change item)) :
    ∀ entry ∈ entries.update name change, IsReadable entry := by
  intro entry isEntry
  obtain ⟨old, isOld, rfl⟩ := List.mem_map.mp isEntry
  dsimp only
  split
  · exact keeps _ _ (readable old isOld)
  · exact readable old isOld

theorem entriesSound_assign (sound : entriesSound inBraces entries)
    (isNew : ∀ item, item? = some item → IsNewLine item) :
    entriesSound inBraces (entries.assign name item?) := by
  cases item? with
  | none => exact entriesSound_erase sound
  | some item =>
    have soundItem := (isNew item rfl).isSound inBraces
    rw [Entries.assign, Entries.set]
    split
    · exact entriesSound_update sound fun _ _ => soundItem
    · rename_i isMissing
      have appended : Grows inBraces [] entries (entries ++ [(({ name } : Key), item)]) _ :=
        Grows.append sound (Option.not_isSome_iff_eq_none.mp isMissing) soundItem
      exact appended.sound

theorem isReadable_assign (isBare : IsBare name)
    (isNew : ∀ item, item? = some item → IsNewLine item)
    (readable : ∀ entry ∈ entries, IsReadable entry) :
    ∀ entry ∈ entries.assign name item?, IsReadable entry := by
  cases item? with
  | none => exact fun entry isEntry => readable entry (List.mem_of_mem_filter isEntry)
  | some item =>
    rw [Entries.assign, Entries.set]
    split
    · exact isReadable_update_of_forall readable fun _ _ isOld =>
        (isNew item rfl).isReadable isOld.isKey
    · exact isReadable_append readable ((isNew item rfl).isReadable (isReadable_of_isBare isBare))

/-- Fields with bare names that are removed or get new values. -/
def AreNewLines (fields : List (String × Option Item)) : Prop :=
  ∀ field ∈ fields, IsBare field.1 ∧ ∀ item, field.2 = some item → IsNewLine item

theorem entriesSound_assignAll (areNew : AreNewLines fields)
    (sound : entriesSound inBraces entries) : entriesSound inBraces (entries.assignAll fields) := by
  induction fields generalizing entries with
  | nil => exact sound
  | cons field fields ih =>
    obtain ⟨isNew, areNew⟩ := List.forall_mem_cons.mp areNew
    exact ih areNew (entriesSound_assign sound isNew.2)

theorem isReadable_assignAll (areNew : AreNewLines fields)
    (readable : ∀ entry ∈ entries, IsReadable entry) :
    ∀ entry ∈ entries.assignAll fields, IsReadable entry := by
  induction fields generalizing entries with
  | nil => exact readable
  | cons field fields ih =>
    obtain ⟨isNew, areNew⟩ := List.forall_mem_cons.mp areNew
    exact ih areNew (isReadable_assign isNew.1 isNew.2 readable)

theorem isSound_mapEntries (areNew : AreNewLines fields) (item : Item)
    (sound : item.IsSound inBraces) : (item.mapEntries (·.assignAll fields)).IsSound inBraces := by
  cases item with
  | value | tables => exact sound
  | inlineTable dotted decor padding inside =>
    exact entriesSound_assignAll areNew (show entriesSound true inside from sound)
  | table head inside => exact ⟨sound.1, entriesSound_assignAll areNew sound.2⟩

theorem isReadable_mapEntries (areNew : AreNewLines fields) (key : Key) (item : Item)
    (readable : IsReadable (key, item)) :
    IsReadable (key, item.mapEntries (·.assignAll fields)) := by
  cases item with
  | value | tables => exact readable
  | inlineTable => exact .inlineTable readable.isKey
  | table head inside => exact readable.fill (isReadable_assignAll areNew readable.inside)

/-- Opening a table makes a new one or leaves the one that is there. -/
theorem AreReadable.openTable (readable : AreReadable entries) (isBare : IsBare name) :
    AreReadable (entries.openTable name) := by
  have isTable : IsReadable ({ name }, .table {} []) :=
    .table (isReadable_of_isBare isBare) (fun _ => ⟨nofun, nofun, .blank nofun⟩)
      (List.forall_mem_nil _)
  have soundTable : Item.IsSound false (.table {} []) := ⟨rfl, trivial⟩
  rw [Entries.openTable]
  split
  · split
    · exact readable
    · obtain ⟨soundItems, distinct⟩ := entriesSound_iff.mp readable.sound
      refine ⟨entriesSound_iff.mpr ⟨fun entry isEntry => ?_, ?_⟩, fun entry isEntry => ?_⟩
      · obtain ⟨old, isOld, rfl⟩ := List.mem_map.mp isEntry
        by_cases isName : old.1.name = name
        · simpa [isName] using soundTable
        · simpa [isName] using soundItems old isOld
      · have sameNames : (·.1.name) ∘ (fun entry : Key × Item =>
            if entry.1.name = name then (({ name } : Key), Item.table {} []) else entry) =
              fun entry => entry.1.name := by
          funext entry
          by_cases isName : entry.1.name = name <;> simp [isName]
        rw [List.map_map]
        exact (congrArg (List.map · entries) sameNames) ▸ distinct
      · obtain ⟨old, isOld, rfl⟩ := List.mem_map.mp isEntry
        by_cases isName : old.1.name = name
        · simpa [isName] using isTable
        · simpa [isName] using readable.each old isOld
  · rename_i isNew
    have appended : Grows false [] entries (entries ++ [(({ name } : Key), .table {} [])]) _ :=
      Grows.append readable.sound isNew soundTable
    exact ⟨appended.sound, isReadable_append readable.each isTable⟩

/-- A section can be read again with new values in it. -/
theorem AreReadable.editSection (readable : AreReadable entries) (isBare : IsBare name)
    (areNew : AreNewLines fields) :
    AreReadable (Settings.editSection name (·.assignAll fields) entries) where
  sound := entriesSound_update (readable.openTable isBare).sound (isSound_mapEntries areNew)
  each := isReadable_update_of_forall (readable.openTable isBare).each
    (isReadable_mapEntries areNew)

end Toml

namespace Settings

open Toml

variable {settings : Settings} {document : Toml.Document}

/-! ## Settings in any order -/

/-- No setting is an object. -/
theorem data_ne_object : ∀ part ∈ settings.sections, ∀ field ∈ part.2, ∀ data,
    field.2.map Item.data = some data → ∀ members, data ≠ .object members := by
  simp only [sections, coreFields, apiFields, mockFields, List.forall_mem_cons]
  simp [textItem, boolItem, textsItem, rulesItem, Item.data]

/-- Settings are read from a document in any order. -/
theorem read?_of_sameMembers {document read : Toml.Document}
    (same : (settings.write document).data.SameMembers read.data) :
    read? read = some settings := by
  refine read?_of_stored fun part isPart => ?_
  obtain ⟨members, found, stored⟩ := settings.lookup_write document part isPart
  obtain ⟨member, isMember, sameMember⟩ := same.exists_lookup found
  obtain ⟨fields, rfl⟩ := sameMember.exists_eq_object
  refine ⟨fields, isMember, fun field isField => ?_⟩
  exact sameMember.lookup_eq (stored field isField) (data_ne_object part isPart field isField)

/-! ## Settings in a flat document -/

/-- All settings are written as new values that are read back, as long as no replacement is among
them. -/
theorem areNewLines_of_mem_sections (noRules : settings.api.substitutions = [])
    {part : String × List (String × Option Item)} (isPart : part ∈ settings.sections) :
    IsBare part.1 ∧ AreNewLines part.2 := by
  have areBare : ∀ known ∈ knownFields, ∀ name ∈ known.1 :: known.2,
      name.toList ≠ [] ∧ name.toList.all isBareKeyChar = true := by decide
  have isKnown := List.mem_map_of_mem (f := fun part : String × List (String × Option Item) =>
    (part.1, part.2.map (·.1))) isPart
  rw [map_sections] at isKnown
  have isBare (name : String) (isName : name ∈ part.1 :: part.2.map (·.1)) : IsBare name := by
    obtain ⟨nonempty, bare⟩ := areBare _ isKnown name isName
    exact ⟨nonempty, List.all_eq_true.mp bare⟩
  have text (s : String) : IsNewLine (textItem s) :=
    ⟨_, _, rfl, nofun, (readsAs_quote s).isLineValue (noReturn_quote s)⟩
  have bool (b : Bool) : IsNewLine (boolItem b) :=
    ⟨_, _, rfl, nofun, (readsAs_bool b).isLineValue (by cases b <;> simp)⟩
  have texts (texts : List String) : IsNewLine (textsItem texts) :=
    ⟨_, _, rfl, nofun, (readsAs_texts texts).isLineValue (noReturn_texts texts)⟩
  have areNew : ∀ part ∈ settings.sections, ∀ field ∈ part.2, ∀ item, field.2 = some item →
      IsNewLine item := by
    have rules : rulesItem settings.api.substitutions = textsItem [] := by rw [noRules]; rfl
    simp only [sections, coreFields, apiFields, mockFields, rules, List.forall_mem_cons]
    simp [text, bool, texts]
  refine ⟨isBare _ List.mem_cons_self, fun field isField => ⟨?_, areNew part isPart field isField⟩⟩
  exact isBare _ (List.mem_cons_of_mem _ (List.mem_map_of_mem isField))

/-- A document can be read again with settings in it. -/
theorem isReadable_write (noRules : settings.api.substitutions = [])
    (readable : document.IsReadable) : (settings.write document).IsReadable := by
  have areReadable := List.foldlRecOn (motive := AreReadable) settings.sections
    (fun entries part => editSection part.1 (·.assignAll part.2) entries) readable.entries
    fun entries areReadable part isPart =>
      have ⟨isBare, areNew⟩ := areNewLines_of_mem_sections noRules isPart
      areReadable.editSection isBare areNew
  rw [← entries_write] at areReadable
  exact ⟨areReadable, readable.noReturn, readable.trailing⟩

/-- The document that saving edits: the one in the file, or an empty one. -/
def editedFile (file? : Option String) : Toml.Document :=
  (file?.bind Toml.Document.parse?).getD {}

theorem isReadable_editedFile (file? : Option String) : (editedFile file?).IsReadable := by
  rw [editedFile]
  cases isDocument : file?.bind Toml.Document.parse? with
  | none => exact ⟨⟨trivial, List.forall_mem_nil _⟩, List.not_mem_nil, rfl⟩
  | some document =>
    obtain ⟨text, -, parsed⟩ := Option.bind_eq_some_iff.mp isDocument
    exact Document.isReadable_of_parse? parsed

/-- The text of a document is read as a document that stands for the same, save for the order of
members. -/
def IsReadBack (document : Toml.Document) : Prop :=
  ∃ read, Toml.Document.parse? document.text = some read ∧ document.data.SameMembers read.data

/-- A file is read back if it is flat once settings are in it. -/
theorem isReadBack_of_isFlat (noRules : settings.api.substitutions = []) {file? : Option String}
    (flat : (settings.write (editedFile file?)).IsFlat) :
    IsReadBack (settings.write (editedFile file?)) := by
  have readable := isReadable_write noRules (isReadable_editedFile file?)
  obtain ⟨read, parsed, same⟩ := Document.exists_parse?_text readable flat
  have distinct : ((entriesData (settings.write (editedFile file?)).entries).map (·.1)).Nodup := by
    rw [map_fst_entriesData]
    exact (entriesSound_iff.mp readable.entries.sound).2
  exact ⟨read, parsed, .of_perm same.symm distinct⟩

example : (({} : Settings).write (editedFile (some "no document"))).IsFlat := by decide +kernel

/-- Settings are loaded from a file that is read back. -/
theorem parse?_save_of_isReadBack {file? : Option String}
    (isReadBack : IsReadBack (settings.write (editedFile file?))) :
    parse? (settings.save file?) = some settings := by
  obtain ⟨read, parsed, same⟩ := isReadBack
  have isText : settings.save file? = (settings.write (editedFile file?)).text := rfl
  rw [parse?, isText, parsed]
  exact read?_of_sameMembers same

end Settings

end TypedClient

/-
# What is written around the parts of a document

A document keeps texts of the file it was read from: what surrounds its keys, values and headers,
and the values as they are spelled. Each of these fragments has a place, and printing the document
writes it out whole, so a comment in it is in the new file too.
-/

import TypedClient.Proofs.Toml.Plain

namespace TypedClient.Toml

/-! ## Texts in texts -/

/-- A text stands in another as it is. -/
def Within (part whole : String) : Prop := part.toList <:+: whole.toList

namespace Within

variable {part middle whole : String}

theorem refl (text : String) : Within text text := List.infix_rfl

theorem trans (inner : Within part middle) (outer : Within middle whole) : Within part whole :=
  List.IsInfix.trans inner outer

theorem append_left (before : String) (within : Within part whole) :
    Within part (before ++ whole) := by
  rw [Within, String.toList_append]
  exact List.IsInfix.trans within (List.suffix_append _ _).isInfix

theorem append_right (within : Within part whole) (after : String) :
    Within part (whole ++ after) := by
  rw [Within, String.toList_append]
  exact List.IsInfix.trans within (List.prefix_append _ _).isInfix

/-- A text of a list stands in all of them together. -/
theorem join {texts : List String} (isText : whole ∈ texts) : Within whole (String.join texts) := by
  obtain ⟨front, back, rfl⟩ := List.append_of_mem isText
  rw [String.join_append, String.join_cons]
  exact ((refl whole).append_right _).append_left _

/-- A text of a list stands in all of them with a separator between them. -/
theorem intercalate (separator : String) {texts : List String} (isText : whole ∈ texts) :
    Within whole (String.intercalate separator texts) := by
  induction texts with
  | nil => cases isText
  | cons first rest ih =>
    cases rest with
    | nil =>
      rw [List.mem_singleton.mp isText, String.intercalate_singleton]
      exact refl first
    | cons second rest =>
      rw [String.intercalate_cons_cons]
      rcases List.mem_cons.mp isText with rfl | isRest
      · exact ((refl whole).append_right separator).append_right _
      · exact (ih isRest).append_left _

end Within

/-! ## Fragments -/

/-- What a fragment of a document belongs to. -/
inductive Role where
  /-- The key of a value: what surrounds it, the lines before it included. -/
  | key
  /-- A value: its own text and what surrounds it, up to the end of its line. -/
  | value
  /-- The header of a table: what surrounds it. -/
  | header
  /-- The end of the document. -/
  | ending
  deriving DecidableEq, Repr

/-- A text that was written at a part of a document. -/
structure Fragment where
  /-- The names that lead to the part. -/
  path : List String
  role : Role
  text : String
  deriving DecidableEq, Repr

/-- The texts of the surroundings of a part. -/
def Decor.fragments (path : List String) (role : Role) (decor : Decor) : List Fragment :=
  (decor.before.toList ++ decor.after.toList).map (⟨path, role, ·⟩)

mutual

/-- The fragments of what a key in the table under a path holds. A table in braces has no headers
in it. -/
def Item.fragments (inBraces : Bool) (path : List String) (key : Key) : Item → List Fragment
  | .value decor text _ =>
    key.leaf.fragments (path ++ [key.name]) .key ++
      decor.fragments (path ++ [key.name]) .value ++ [⟨path ++ [key.name], .value, text⟩]
  | .inlineTable dotted decor _ entries =>
    (if dotted then []
      else key.leaf.fragments (path ++ [key.name]) .key ++
        decor.fragments (path ++ [key.name]) .value) ++
      entriesFragments true (path ++ [key.name]) entries
  | .table head entries =>
    if inBraces then []
    else (if head.dotted || head.implicit then []
        else head.decor.fragments (path ++ [key.name]) .header) ++
      entriesFragments false (path ++ [key.name]) entries
  | .tables elements => if inBraces then [] else elementsFragments (path ++ [key.name]) elements

/-- The fragments of the entries of the table under a path. -/
def entriesFragments (inBraces : Bool) (path : List String) :
    List (Key × Item) → List Fragment
  | [] => []
  | (key, item) :: rest => item.fragments inBraces path key ++ entriesFragments inBraces path rest

/-- The fragments of the tables of an array. -/
def elementsFragments (path : List String) :
    List (TableHead × List (Key × Item)) → List Fragment
  | [] => []
  | (head, entries) :: rest =>
    head.decor.fragments path .header ++ entriesFragments false path entries ++
      elementsFragments path rest

end

/-- The fragments of a document. -/
def Document.fragments (document : Document) : List Fragment :=
  entriesFragments false [] document.entries ++ [⟨[], .ending, document.trailing⟩]

theorem entriesFragments_eq_flatMap (inBraces : Bool) (path : List String) (entries : Entries) :
    entriesFragments inBraces path entries =
      entries.flatMap fun entry => entry.2.fragments inBraces path entry.1 := by
  induction entries with
  | nil => rfl
  | cons entry rest ih => rw [entriesFragments, List.flatMap_cons, ih]

/-! ## Places -/

theorem Decor.place_of_mem_fragments {path : List String} {role : Role} {decor : Decor}
    {fragment : Fragment} (isFragment : fragment ∈ decor.fragments path role) :
    fragment.path = path ∧ fragment.role = role := by
  obtain ⟨text, -, rfl⟩ := List.mem_map.mp isFragment
  exact ⟨rfl, rfl⟩

theorem Decor.isPrefix_path {path : List String} {role : Role} {decor : Decor}
    {fragment : Fragment} (isFragment : fragment ∈ decor.fragments path role) :
    path <+: fragment.path :=
  (Decor.place_of_mem_fragments isFragment).1.symm ▸ List.prefix_rfl

mutual

/-- What a key holds has its fragments at or under the path of the key. -/
theorem Item.isPrefix_path {fragment : Fragment} {inBraces : Bool} {base : List String}
    {key : Key} : (item : Item) → fragment ∈ item.fragments inBraces base key →
    base ++ [key.name] <+: fragment.path
  | .value decor text data, isFragment => by
    rw [Item.fragments, List.mem_append, List.mem_append, List.mem_singleton] at isFragment
    rcases isFragment with (ofKey | ofValue) | rfl
    · exact Decor.isPrefix_path ofKey
    · exact Decor.isPrefix_path ofValue
    · exact List.prefix_rfl
  | .inlineTable dotted decor padding entries, isFragment => by
    rw [Item.fragments, List.mem_append] at isFragment
    rcases isFragment with around | inside
    · split at around
      · cases around
      · rcases List.mem_append.mp around with ofKey | ofValue
        · exact Decor.isPrefix_path ofKey
        · exact Decor.isPrefix_path ofValue
    · exact isPrefix_entriesFragments entries inside
  | .table head entries, isFragment => by
    rw [Item.fragments] at isFragment
    split at isFragment
    · cases isFragment
    · rcases List.mem_append.mp isFragment with ofHeader | inside
      · split at ofHeader
        · cases ofHeader
        · exact Decor.isPrefix_path ofHeader
      · exact isPrefix_entriesFragments entries inside
  | .tables elements, isFragment => by
    rw [Item.fragments] at isFragment
    split at isFragment
    · cases isFragment
    · exact isPrefix_elementsFragments elements isFragment

theorem isPrefix_entriesFragments {fragment : Fragment} {inBraces : Bool} {base : List String} :
    (entries : List (Key × Item)) → fragment ∈ entriesFragments inBraces base entries →
    base <+: fragment.path
  | [], isFragment => absurd isFragment List.not_mem_nil
  | (key, item) :: rest, isFragment => by
    rcases List.mem_append.mp isFragment with inItem | inRest
    · exact (List.prefix_append base [key.name]).trans (item.isPrefix_path inItem)
    · exact isPrefix_entriesFragments rest inRest

theorem isPrefix_elementsFragments {fragment : Fragment} {base : List String} :
    (elements : List (TableHead × List (Key × Item))) →
    fragment ∈ elementsFragments base elements → base <+: fragment.path
  | [], isFragment => absurd isFragment List.not_mem_nil
  | (head, entries) :: rest, isFragment => by
    rw [elementsFragments, List.mem_append, List.mem_append] at isFragment
    rcases isFragment with (ofHeader | inside) | inRest
    · exact Decor.isPrefix_path ofHeader
    · exact isPrefix_entriesFragments entries inside
    · exact isPrefix_elementsFragments rest inRest

end

theorem exists_of_mem_entriesFragments {fragment : Fragment} {inBraces : Bool}
    {base : List String} {entries : Entries}
    (isFragment : fragment ∈ entriesFragments inBraces base entries) :
    ∃ entry ∈ entries, fragment ∈ entry.2.fragments inBraces base entry.1 := by
  rw [entriesFragments_eq_flatMap] at isFragment
  exact List.mem_flatMap.mp isFragment

/-- What is in the entries of a table is at a longer path than the table. -/
theorem path_ne_of_mem_entriesFragments {fragment : Fragment} {inBraces : Bool}
    {base : List String} {entries : Entries}
    (isFragment : fragment ∈ entriesFragments inBraces base entries) : fragment.path ≠ base := by
  obtain ⟨entry, -, inEntry⟩ := exists_of_mem_entriesFragments isFragment
  intro same
  have longer := (entry.2.isPrefix_path inEntry).length_le
  rw [same, List.length_append, List.length_singleton] at longer
  omega

/-- The fragments of a key at the path of what it holds are those around the key. -/
theorem Item.mem_key_fragments {fragment : Fragment} {inBraces : Bool} {base : List String}
    {key : Key} {item : Item} (isFragment : fragment ∈ item.fragments inBraces base key)
    (isPath : fragment.path = base ++ [key.name]) (isKey : fragment.role = .key) :
    fragment ∈ key.leaf.fragments (base ++ [key.name]) .key := by
  have notAround {decor : Decor} {role : Role} (notKey : role ≠ .key) :
      fragment ∉ decor.fragments (base ++ [key.name]) role := fun around =>
    notKey ((Decor.place_of_mem_fragments around).2.symm.trans isKey)
  have notInside {inBraces : Bool} {entries : Entries} :
      fragment ∉ entriesFragments inBraces (base ++ [key.name]) entries := fun inside =>
    path_ne_of_mem_entriesFragments inside isPath
  cases item with
  | value decor text data =>
    rw [Item.fragments, List.mem_append, List.mem_append, List.mem_singleton] at isFragment
    rcases isFragment with (ofKey | ofValue) | rfl
    · exact ofKey
    · exact absurd ofValue (notAround (by decide))
    · cases isKey
  | inlineTable dotted decor padding entries =>
    rw [Item.fragments, List.mem_append] at isFragment
    rcases isFragment with around | inside
    · split at around
      · cases around
      · exact (List.mem_append.mp around).resolve_right (notAround (by decide))
    · exact absurd inside notInside
  | table head entries =>
    rw [Item.fragments] at isFragment
    split at isFragment
    · cases isFragment
    · rcases List.mem_append.mp isFragment with ofHeader | inside
      · split at ofHeader
        · cases ofHeader
        · exact absurd ofHeader (notAround (by decide))
      · exact absurd inside notInside
  | tables elements =>
    rw [Item.fragments] at isFragment
    split at isFragment
    · cases isFragment
    · induction elements with
      | nil => cases isFragment
      | cons element rest ih =>
        rw [elementsFragments, List.mem_append, List.mem_append] at isFragment
        rcases isFragment with (ofHeader | inside) | inRest
        · exact absurd ofHeader (notAround (by decide))
        · exact absurd inside notInside
        · exact ih inRest

/-! ## Printing -/

variable {fragment : Fragment} {path : List Key} {names : List String} {key : Key}

theorem Decor.within_wrap {decor : Decor} {role : Role}
    (isFragment : fragment ∈ decor.fragments names role) (before after text : String) :
    Within fragment.text (decor.wrap before after text) := by
  obtain ⟨written, isWritten, rfl⟩ := List.mem_map.mp isFragment
  rcases List.mem_append.mp isWritten with isBefore | isAfter
  · rw [Decor.wrap, Option.mem_toList.mp isBefore]
    exact ((Within.refl written).append_right text).append_right _
  · rw [Decor.wrap, Option.mem_toList.mp isAfter]
    exact (Within.refl written).append_left _

namespace ValueLine

/-- However a value is laid out by default, a text stands in it. -/
def Shows (line : ValueLine) (text : String) : Prop :=
  ∀ before after left right : String,
    Within text (pathText before after line.path ++ "=" ++ line.decor.wrap left right line.text)

theorem shows_key (isFragment : fragment ∈ key.leaf.fragments names .key) (decor : Decor)
    (text : String) : Shows ⟨path ++ [key], decor, text⟩ fragment.text := by
  intro before after left right
  refine Within.append_right (Within.append_right ?_ _) _
  simp only [pathText, List.getLast?_concat, Option.map_some, Option.getD_some]
  exact Decor.within_wrap isFragment before after _

theorem shows_decor {decor : Decor} {role : Role}
    (isFragment : fragment ∈ decor.fragments names role) (text : String) :
    Shows ⟨path, decor, text⟩ fragment.text := fun _ _ left right =>
  (Decor.within_wrap isFragment left right text).append_left _

theorem shows_text {part text : String} (within : Within part text) (decor : Decor) :
    Shows ⟨path, decor, text⟩ part := fun _ _ _ _ =>
  ((within.append_left _).append_right _).append_left _

variable {line : ValueLine} {lines : List ValueLine} {text : String}

theorem Shows.linesText (shows : line.Shows text) (isLine : line ∈ lines) :
    Within text (linesText lines) :=
  ((shows "" " " " " "").append_right "\n").trans (Within.join (List.mem_map_of_mem isLine))

theorem Shows.inlineText (shows : line.Shows text) (isLine : line ∈ lines) (padding : String) :
    Within text (inlineText lines padding) := by
  have shown : ∃ value ∈ inlineValues lines, Within text value := by
    induction lines with
    | nil => cases isLine
    | cons first rest ih =>
      rw [inlineValues]
      rcases List.mem_cons.mp isLine with rfl | isRest
      · exact ⟨_, List.mem_cons_self, shows _ _ _ _⟩
      · obtain ⟨value, isValue, within⟩ := ih isRest
        exact ⟨value, List.mem_cons_of_mem _ isValue, within⟩
  obtain ⟨value, isValue, within⟩ := shown
  have inside := within.trans (Within.intercalate "," isValue)
  exact ((inside.append_left "\x7b").append_right padding).append_right "\x7d"

end ValueLine

namespace Section

/-- Whether a table is printed first or later, a text stands in it. -/
def Shows (entry : Section) (text : String) : Prop :=
  ∀ first : Bool, Within text (entry.text first)

theorem shows_line {entry : Section} {line : ValueLine} {text : String} (shows : line.Shows text)
    (isLine : line ∈ entry.lines) : entry.Shows text := fun _ =>
  (shows.linesText isLine).append_left _

theorem shows_header {entry : Section} (hasHeader : entry.hasHeader)
    (isFragment : fragment ∈ entry.head.decor.fragments names .header) :
    entry.Shows fragment.text := by
  intro first
  rw [Section.text]
  refine Within.append_right ?_ _
  rw [if_pos hasHeader]
  exact (Decor.within_wrap isFragment _ _ _).append_right "\n"

end Section

mutual

/-- A fragment of an entry is printed in one of its lines or in one of the tables in it. -/
theorem Item.shows_fragment {inBraces : Bool} {names : List String} {key : Key} :
    (item : Item) → fragment ∈ item.fragments inBraces names key →
    (∀ path, ∃ line ∈ item.valueLines path key, line.Shows fragment.text) ∨
      inBraces = false ∧ ∀ path, ∃ entry ∈ item.sections path key, entry.Shows fragment.text
  | .value decor text data, isFragment => by
    refine .inl fun path => ⟨⟨path ++ [key], decor, text⟩, List.mem_singleton.mpr rfl, ?_⟩
    rw [Item.fragments, List.mem_append, List.mem_append, List.mem_singleton] at isFragment
    rcases isFragment with (ofKey | ofValue) | rfl
    · exact ValueLine.shows_key ofKey decor text
    · exact ValueLine.shows_decor ofValue text
    · exact ValueLine.shows_text (Within.refl text) decor
  | .inlineTable true decor padding entries, isFragment => by
    rw [Item.fragments, if_pos rfl, List.nil_append] at isFragment
    rcases shows_entriesFragment entries isFragment with inLines | ⟨isFalse, -⟩
    · exact .inl fun path => inLines (path ++ [key])
    · cases isFalse
  | .inlineTable false decor padding entries, isFragment => by
    refine .inl fun path => ⟨⟨path ++ [key], decor, inlineText (entryLines [] entries) padding⟩,
      List.mem_singleton.mpr rfl, ?_⟩
    rw [Item.fragments, if_neg Bool.false_ne_true, List.mem_append, List.mem_append] at isFragment
    rcases isFragment with (ofKey | ofValue) | inside
    · exact ValueLine.shows_key ofKey decor _
    · exact ValueLine.shows_decor ofValue _
    · rcases shows_entriesFragment entries inside with inLines | ⟨isFalse, -⟩
      · obtain ⟨line, isLine, shows⟩ := inLines []
        exact ValueLine.shows_text (shows.inlineText isLine padding) decor
      · cases isFalse
  | .table head entries, isFragment => by
    cases inBraces with
    | true => exact absurd isFragment List.not_mem_nil
    | false =>
      rw [Item.fragments, if_neg Bool.false_ne_true, List.mem_append] at isFragment
      cases dotted : head.dotted with
      | true =>
        simp only [dotted, Bool.true_or, if_true, List.not_mem_nil, false_or] at isFragment
        simp only [Item.valueLines, Item.sections, dotted, if_true, List.nil_append, true_and]
        rcases shows_entriesFragment entries isFragment with inLines | ⟨-, inSections⟩
        · exact .inl fun path => inLines (path ++ [key])
        · exact .inr fun path => inSections (path ++ [key])
      | false =>
        simp only [dotted, Bool.false_or] at isFragment
        refine .inr ⟨rfl, fun path => ?_⟩
        simp only [Item.sections, dotted, Bool.false_eq_true, if_false, List.singleton_append,
          List.mem_cons, or_and_right, exists_or, exists_eq_left]
        rcases isFragment with ofHeader | inside
        · split at ofHeader
          · cases ofHeader
          · rename_i explicit
            refine .inl (Section.shows_header ?_ ofHeader)
            simp [Section.hasHeader, explicit]
        · rcases shows_entriesFragment entries inside with inLines | ⟨-, inSections⟩
          · obtain ⟨line, isLine, shows⟩ := inLines []
            exact .inl (Section.shows_line shows isLine)
          · exact .inr (inSections (path ++ [key]))
  | .tables elements, isFragment => by
    cases inBraces with
    | true => exact absurd isFragment List.not_mem_nil
    | false =>
      rw [Item.fragments, if_neg Bool.false_ne_true] at isFragment
      exact .inr ⟨rfl, fun path => shows_elementsFragment elements isFragment (path ++ [key])⟩

/-- A fragment of entries is printed in one of their lines or in one of the tables among them. -/
theorem shows_entriesFragment {inBraces : Bool} {names : List String} :
    (entries : List (Key × Item)) → fragment ∈ entriesFragments inBraces names entries →
    (∀ path, ∃ line ∈ entryLines path entries, line.Shows fragment.text) ∨
      inBraces = false ∧ ∀ path, ∃ entry ∈ entrySections path entries,
        entry.Shows fragment.text
  | [], isFragment => absurd isFragment List.not_mem_nil
  | (key, item) :: rest, isFragment => by
    simp only [entryLines, entrySections, List.mem_append, or_and_right, exists_or]
    rcases List.mem_append.mp isFragment with inItem | inRest
    · exact (item.shows_fragment inItem).imp (fun inLines path => .inl (inLines path))
        (And.imp_right fun inSections path => .inl (inSections path))
    · exact (shows_entriesFragment rest inRest).imp (fun inLines path => .inr (inLines path))
        (And.imp_right fun inSections path => .inr (inSections path))

/-- A fragment of an array of tables is printed in one of them or of the tables in them. -/
theorem shows_elementsFragment {names : List String} :
    (elements : List (TableHead × List (Key × Item))) →
    fragment ∈ elementsFragments names elements → (path : List Key) →
    ∃ entry ∈ elementSections path elements, entry.Shows fragment.text
  | [], isFragment, _ => absurd isFragment List.not_mem_nil
  | (head, entries) :: rest, isFragment, path => by
    rw [elementsFragments, List.mem_append, List.mem_append] at isFragment
    simp only [elementSections, List.cons_append, List.mem_cons, List.mem_append, or_and_right,
      exists_or, exists_eq_left]
    rcases isFragment with (ofHeader | inside) | inRest
    · exact .inl (Section.shows_header rfl ofHeader)
    · rcases shows_entriesFragment entries inside with inLines | ⟨-, inSections⟩
      · obtain ⟨line, isLine, shows⟩ := inLines []
        exact .inl (Section.shows_line shows isLine)
      · exact .inr (.inl (inSections path))
    · exact .inr (.inr (shows_elementsFragment rest inRest path))

end

/-- A table that is printed among others stands in their text. -/
theorem Section.within_sectionsText {entry : Section} {text : String} (shows : entry.Shows text)
    {entries : List Section} (isEntry : entry ∈ entries) (first : Bool) :
    Within text (sectionsText first entries) := by
  induction entries generalizing first with
  | nil => cases isEntry
  | cons head rest ih =>
    rw [sectionsText]
    rcases List.mem_cons.mp isEntry with rfl | isRest
    · exact (shows first).append_right _
    · exact (ih isRest _).append_left _

/-- Every fragment of a document stands in its text. -/
theorem Document.within_text {document : Document} (isFragment : fragment ∈ document.fragments) :
    Within fragment.text document.text := by
  rw [Document.text]
  rcases List.mem_append.mp isFragment with inEntries | isEnding
  · refine Within.append_right ?_ _
    rcases shows_entriesFragment document.entries inEntries with inLines | ⟨-, inSections⟩
    · obtain ⟨line, isLine, shows⟩ := inLines []
      exact (shows.linesText isLine).append_right _
    · obtain ⟨entry, isEntry, shows⟩ := inSections []
      refine (Section.within_sectionsText shows ?_ _).append_left _
      -- Sorting the tables loses none of them.
      rw [← map_place 0 (entrySections [] document.entries)] at isEntry
      exact (List.Perm.map (fun placed : Nat × Section => placed.2)
        (List.mergeSort_perm _ _)).mem_iff.mpr isEntry
  · rw [List.mem_singleton.mp isEnding]
    exact (Within.refl _).append_left _

end TypedClient.Toml

/-
# New values of settings

Every setting is written as a new value in one line: a string, a truth value or a list. Nothing is
written around it, and a number sign in it stands in a string, so no comment comes with it.
-/

import TypedClient.Proofs.Settings.Saving
import TypedClient.Proofs.Toml.Comments
import TypedClient.Proofs.Toml.Values

namespace TypedClient.Toml

variable {texts : List String}

theorem comments_eq_nil {piece : List Char} (silent : IsSilent piece) : comments piece = [] := by
  have alone := silent [] noQuoteNext_nil
  rwa [List.append_nil] at alone

/-- A text is written as one string, so it has no comments. -/
theorem isSilent_quote (s : String) : IsSilent (quote s).toList := by
  obtain ⟨c, literal, isCons, isQuote⟩ := quote_eq_cons s
  have isString (more : List Char) (noQuote : NoQuoteNext more) :
      string? (c :: literal ++ more) = some (s, more) := by
    rw [← isCons]
    exact string?_quote s (noQuote.head?_ne rfl) (noQuote.head?_ne rfl)
  rw [isCons]
  exact isSilent_string (isQuoteChar_iff.mpr isQuote) isString

/-- Signs that begin no comment and no string are passed over. -/
theorem comments_signs_append {signs : String}
    (plain : signs.toList.all fun c => c != '#' && !isQuoteChar c) (more : List Char) :
    comments (signs.toList ++ more) = comments more :=
  comments_append_of_forall (by simpa using plain) more

/-- Texts without comments have none with commas between them. -/
theorem isSilent_intercalate (silent : ∀ text ∈ texts, IsSilent text.toList) :
    IsSilent (String.intercalate ", " texts).toList := by
  intro more noQuote
  induction texts with
  | nil => rfl
  | cons first rest ih =>
    obtain ⟨silentFirst, silentRest⟩ := List.forall_mem_cons.mp silent
    cases rest with
    | nil => exact silentFirst more noQuote
    | cons second rest =>
      have comma : NoQuoteNext (", ".toList ++
          ((String.intercalate ", " (second :: rest)).toList ++ more)) :=
        noQuoteNext_cons rfl _
      rw [String.intercalate_cons_cons, String.toList_append, String.toList_append,
        List.append_assoc, List.append_assoc, silentFirst _ comma,
        comments_signs_append (by decide), ih silentRest]

/-- A list of texts without comments has none. -/
theorem comments_list (silent : ∀ text ∈ texts, IsSilent text.toList) :
    comments ("[" ++ String.intercalate ", " texts ++ "]").toList = [] := by
  have bracket : NoQuoteNext "]".toList := noQuoteNext_cons rfl _
  rw [String.toList_append, String.toList_append, List.append_assoc,
    comments_signs_append (by decide), isSilent_intercalate silent _ bracket]
  rfl

end TypedClient.Toml

namespace TypedClient.Settings

open Toml

/-- A value that nothing is written around and that has no comment in it. -/
def IsNew (item : Item) : Prop :=
  ∃ text data, item = .value {} text data ∧ comments text.toList = []

theorem isNew_textItem (s : String) : IsNew (textItem s) :=
  ⟨quote s, .string s, rfl, comments_eq_nil (isSilent_quote s)⟩

theorem isNew_boolItem (b : Bool) : IsNew (boolItem b) := by
  refine ⟨if b then "true" else "false", .bool b, rfl, ?_⟩
  cases b <;> decide

theorem isNew_textsItem (texts : List String) : IsNew (textsItem texts) := by
  refine ⟨_, _, rfl, comments_list fun text isText => ?_⟩
  obtain ⟨s, -, rfl⟩ := List.mem_map.mp isText
  exact isSilent_quote s

theorem isSilent_ruleText (rule : Substitution) : IsSilent (ruleText rule).toList := by
  intro more noQuote
  have comma (rest : List Char) : NoQuoteNext (", to = ".toList ++ rest) := noQuoteNext_cons rfl _
  have brace : NoQuoteNext (" \x7d".toList ++ more) := noQuoteNext_cons rfl _
  simp only [ruleText, String.toList_append, List.append_assoc]
  rw [comments_signs_append (by decide), isSilent_quote _ _ (comma _),
    comments_signs_append (by decide), isSilent_quote _ _ brace,
    comments_signs_append (by decide)]

theorem isNew_rulesItem (rules : List Substitution) : IsNew (rulesItem rules) := by
  refine ⟨_, _, rfl, comments_list fun text isText => ?_⟩
  obtain ⟨rule, -, rfl⟩ := List.mem_map.mp isText
  exact isSilent_ruleText rule

/-- Fields that are removed or get new values. -/
def SetsNew (fields : List (String × Option Item)) : Prop :=
  ∀ field ∈ fields, ∀ item, field.2 = some item → IsNew item

/-- All settings are written as new values. -/
theorem setsNew_of_mem_sections {settings : Settings} {part : String × List (String × Option Item)}
    (isPart : part ∈ settings.sections) : SetsNew part.2 := by
  have areNew : ∀ part ∈ settings.sections, SetsNew part.2 := by
    simp only [sections, coreFields, apiFields, mockFields, SetsNew, List.forall_mem_cons]
    simp [isNew_textItem, isNew_boolItem, isNew_textsItem, isNew_rulesItem]
  exact areNew part isPart

end TypedClient.Settings

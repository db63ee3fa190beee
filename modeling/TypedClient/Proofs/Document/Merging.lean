/-
# Merged declarations

A parameter can be declared for a whole path and for each of its operations, and either way by
reference. Declarations with one name and one location declare one parameter: it keeps the place
of the first of them and takes what the last one says. Adding one declaration to merged ones is
the step, and reading them in order is the run.
-/

import TypedClient.Document.Basic
import TypedClient.Proofs.Naming.Repeat

namespace TypedClient

/-! ## References -/

theorem Text.dropStart?_eq_some_iff {s start rest : String} :
    Text.dropStart? s start = some rest ↔ s = start ++ rest := by
  unfold dropStart? startsWith
  constructor
  · intro dropped
    split at dropped
    · rename_i isStart
      obtain ⟨after, whole⟩ := List.isPrefixOf_iff_prefix.mp isStart
      cases dropped
      rw [← String.toList_inj, ← whole]
      simp
    · cases dropped
  · rintro rfl
    simp

namespace Json

variable {root value next target : Json} {hops : Nat}

/-- A value refers to another place in the document. -/
def RefersTo (root value target : Json) : Prop :=
  ∃ pointer, value.getString? "$ref" = some ("#" ++ pointer) ∧ root.pointer? pointer = some target

/-- A value leads to another one by at most so many references. Where they end, nothing is referred
to, unless there were too many. -/
inductive LeadsTo (root : Json) : (hops : Nat) → (value target : Json) → Prop
  | ends {hops : Nat} {value : Json} (refersNowhere : ∀ target, ¬ root.RefersTo value target) :
    LeadsTo root hops value value
  | stops {value : Json} : LeadsTo root 0 value value
  | follows {hops : Nat} {value next target : Json} (refers : root.RefersTo value next)
    (leads : LeadsTo root hops next target) : LeadsTo root (hops + 1) value target

theorem dereference_of_refersTo (refers : root.RefersTo value next) :
    root.dereference (hops + 1) value = root.dereference hops next := by
  obtain ⟨pointer, isReference, found⟩ := refers
  have isLocal : (value.getString? "$ref").bind (Text.dropStart? · "#") = some pointer := by
    rw [isReference]
    exact Text.dropStart?_eq_some_iff.mpr rfl
  rw [dereference, isLocal]
  simp only [found]

theorem dereference_of_not_refersTo (refersNowhere : ∀ target, ¬ root.RefersTo value target)
    (hops : Nat) : root.dereference hops value = value := by
  cases hops with
  | zero => rfl
  | succ hops =>
      rw [dereference]
      split
      · rfl
      · rename_i pointer isLocal
        obtain ⟨reference, isReference, isStart⟩ := Option.bind_eq_some_iff.mp isLocal
        cases Text.dropStart?_eq_some_iff.mp isStart
        split
        · rfl
        · rename_i target found
          exact absurd ⟨pointer, isReference, found⟩ (refersNowhere target)

theorem leadsTo_dereference (root value : Json) (hops : Nat) :
    root.LeadsTo hops value (root.dereference hops value) := by
  induction hops generalizing value with
  | zero => exact .stops
  | succ hops ih =>
      by_cases refers : ∃ next, root.RefersTo value next
      · obtain ⟨next, refers⟩ := refers
        rw [dereference_of_refersTo refers]
        exact .follows refers (ih next)
      · have refersNowhere := not_exists.mp refers
        rw [dereference_of_not_refersTo refersNowhere]
        exact .ends refersNowhere

/-- Following references comes to what a value leads to and to nothing else. -/
theorem dereference_eq_iff : root.dereference hops value = target ↔
    root.LeadsTo hops value target := by
  constructor
  · rintro rfl
    exact leadsTo_dereference root value hops
  · intro leads
    induction leads with
    | ends refersNowhere => exact dereference_of_not_refersTo refersNowhere _
    | stops => rfl
    | follows refers _ ih => rw [dereference_of_refersTo refers, ih]

end Json

/-! ## Readable declarations -/

theorem ParameterLocation.ofName?_eq_some_iff {text : String} {location : ParameterLocation} :
    ofName? text = some location ↔ text = location.name := by
  constructor
  · intro found
    rw [ofName?] at found
    have same := List.find?_some found
    exact (beq_iff_eq.mp same).symm
  · rintro rfl
    cases location <;> rfl

namespace Document.Reader

variable {root raw : Json} {p q : Parameter} {declared merged : List Parameter}

/-- A value declares a parameter: it names it and says where it is sent, which is no cookie. Where
it has no schema it is one. -/
structure Declares (raw : Json) (p : Parameter) : Prop where
  name : raw.getString? "name" = some p.name
  location : raw.getString? "in" = some p.location.name
  isSent : p.location ≠ .cookie
  required : p.required =
    (p.location = .path || ((raw.get? "required").bind Json.bool?).getD false)
  description : p.description? = raw.getString? "description"
  schema : p.schema = Schema.ofJson ((raw.get? "schema").getD raw)

theorem parameter?_eq_some_iff : parameter? raw = some p ↔ Declares raw p := by
  constructor
  · intro read
    obtain ⟨name, isName, read⟩ := Option.bind_eq_some_iff.mp read
    obtain ⟨location, isLocation, read⟩ := Option.bind_eq_some_iff.mp read
    obtain ⟨word, isWord, isKnown⟩ := Option.bind_eq_some_iff.mp isLocation
    cases ParameterLocation.ofName?_eq_some_iff.mp isKnown
    split at read
    · cases read
    · rename_i isSent
      cases read
      exact ⟨isName, isWord, isSent, rfl, rfl, rfl⟩
  · intro declares
    have isLocation : (raw.getString? "in").bind ParameterLocation.ofName? = some p.location := by
      rw [declares.location]
      exact ParameterLocation.ofName?_eq_some_iff.mpr rfl
    unfold parameter?
    simp only [declares.name, isLocation, bind, Option.bind_some, if_neg declares.isSent,
      ← declares.required, ← declares.description, ← declares.schema]

/-- What a declaration declares, or else what it refers to. -/
def declared? (root raw : Json) : Option Parameter :=
  parameter? (resolve root raw)

theorem declared?_eq_some_iff : declared? root raw = some p ↔
    ∃ target, root.LeadsTo hopLimit raw target ∧ Declares target p := by
  constructor
  · intro read
    exact ⟨_, Json.leadsTo_dereference root raw hopLimit, parameter?_eq_some_iff.mp read⟩
  · rintro ⟨target, leads, declares⟩
    rw [declared?, resolve, Json.dereference_eq_iff.mpr leads]
    exact parameter?_eq_some_iff.mpr declares

/-! ## Merging -/

end Document.Reader

/-- What tells the parameters of an operation apart. -/
def Parameter.key (p : Parameter) : String × ParameterLocation := (p.name, p.location)

namespace Document.Reader

variable {p q : Parameter} {declared merged : List Parameter}

theorem sameKey_iff : sameKey p q = true ↔ p.key = q.key := by
  simp [sameKey, Parameter.key]

/-- A declaration after which its parameter is not declared again. -/
def IsLast (declared : List Parameter) (p : Parameter) : Prop :=
  ∃ before after, declared = before ++ p :: after ∧ ∀ q ∈ after, q.key ≠ p.key

/-- Every parameter that is declared has one place, where it is declared first, and is as it is
declared last. -/
structure IsMerge (declared merged : List Parameter) : Prop where
  keys : merged.map Parameter.key = (declared.map Parameter.key).eraseDups
  last : ∀ p ∈ merged, IsLast declared p

theorem keys_setParameter (p : Parameter) (merged : List Parameter) :
    (setParameter p merged).map Parameter.key =
      if p.key ∈ merged.map Parameter.key then merged.map Parameter.key
      else merged.map Parameter.key ++ [p.key] := by
  induction merged with
  | nil => rfl
  | cons first rest ih =>
      unfold setParameter
      by_cases same : first.key = p.key
      · rw [if_pos (sameKey_iff.mpr same)]
        simp [same]
      · have differs : p.key ≠ first.key := Ne.symm same
        rw [if_neg (sameKey_iff.not.mpr same), List.map_cons, List.map_cons, ih]
        by_cases isThere : p.key ∈ rest.map Parameter.key
        · rw [if_pos isThere, if_pos (List.mem_cons_of_mem first.key isThere)]
        · have isNew : p.key ∉ first.key :: rest.map Parameter.key :=
            List.not_mem_cons_of_ne_of_not_mem differs isThere
          rw [if_neg isThere, if_neg isNew, List.cons_append]

/-- Where every parameter has one place, the others stay. -/
theorem mem_setParameter (distinct : (merged.map Parameter.key).Nodup)
    (member : q ∈ setParameter p merged) : q = p ∨ q ∈ merged ∧ p.key ≠ q.key := by
  induction merged with
  | nil => exact .inl (List.mem_singleton.mp member)
  | cons first rest ih =>
      obtain ⟨new, distinct⟩ := List.nodup_cons.mp distinct
      unfold setParameter at member
      split at member
      · rename_i same
        rcases List.mem_cons.mp member with isNew | inRest
        · exact .inl isNew
        · have differs : p.key ≠ q.key := by
            rw [← sameKey_iff.mp same]
            exact (ne_of_mem_of_not_mem (List.mem_map_of_mem inRest) new).symm
          exact .inr ⟨List.mem_cons_of_mem first inRest, differs⟩
      · rename_i other
        rcases List.mem_cons.mp member with rfl | inRest
        · exact .inr ⟨List.mem_cons_self, fun same => other (sameKey_iff.mpr same.symm)⟩
        · refine (ih distinct inRest).imp_right ?_
          rintro ⟨isMerged, differs⟩
          exact ⟨List.mem_cons_of_mem first isMerged, differs⟩

theorem IsLast.concat (last : IsLast declared q) (differs : p.key ≠ q.key) :
    IsLast (declared ++ [p]) q := by
  obtain ⟨before, after, rfl, noLater⟩ := last
  refine ⟨before, after ++ [p], by simp, ?_⟩
  exact List.forall_mem_append.mpr ⟨noLater, by simpa using differs⟩

/-- One more declaration. -/
theorem IsMerge.setParameter (merge : IsMerge declared merged) (p : Parameter) :
    IsMerge (declared ++ [p]) (setParameter p merged) where
  keys := by
    rw [keys_setParameter, merge.keys, List.map_append, List.map_singleton]
    by_cases isDeclared : p.key ∈ declared.map Parameter.key
    · rw [if_pos (List.mem_eraseDups.mpr isDeclared), Naming.eraseDups_concat_of_mem isDeclared]
    · rw [if_neg (List.mem_eraseDups.not.mpr isDeclared),
        Naming.eraseDups_concat_of_notMem isDeclared]
  last := by
    have distinct : (merged.map Parameter.key).Nodup := by
      rw [merge.keys]
      exact Naming.nodup_eraseDups _
    intro q member
    rcases mem_setParameter distinct member with rfl | ⟨isMerged, differs⟩
    · exact ⟨declared, [], rfl, by simp⟩
    · exact (merge.last q isMerged).concat differs

/-- All declarations in order, after some that are merged already. -/
theorem IsMerge.foldl (merge : IsMerge declared merged) (further : List Parameter) :
    IsMerge (declared ++ further)
      (further.foldl (fun parameters p => Reader.setParameter p parameters) merged) := by
  induction further generalizing declared merged with
  | nil => rwa [List.append_nil]
  | cons p further ih =>
      have read := ih (merge.setParameter p)
      rwa [List.append_assoc] at read

theorem isMerge_declaredParameters (root : Json) (shared own : List Json) :
    IsMerge ((shared ++ own).filterMap (declared? root)) (declaredParameters root shared own) := by
  have start : IsMerge [] [] := ⟨rfl, List.forall_mem_nil _⟩
  exact start.foldl _

/-- The parameters of a request body, if there is one. -/
def requestBody (root raw : Json) : List Parameter :=
  ((raw.get? "requestBody").map fun body => bodyParameters root (resolve root body)).getD []

/-- An operation has the parameters of its path and its own, each merged from its declarations, and
then those of its request body. A declaration is read where its references lead to. -/
theorem parameters_merged (root item raw : Json) (path : String) (method : HttpMethod) :
    let declarations := items item "parameters" ++ items raw "parameters"
    let merged := declaredParameters root (items item "parameters") (items raw "parameters")
    (operation root path (items item "parameters") method raw).parameters =
        merged ++ requestBody root raw ∧
      IsMerge (declarations.filterMap (declared? root)) merged ∧
      ∀ declaration p, declared? root declaration = some p ↔
        ∃ target, root.LeadsTo hopLimit declaration target ∧ Declares target p :=
  ⟨rfl, isMerge_declaredParameters root _ _, fun _ _ => declared?_eq_some_iff⟩

end Document.Reader

end TypedClient

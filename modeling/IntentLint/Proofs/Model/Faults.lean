import IntentLint.Proofs.Model.Grammar

/-!
# `Proofs.Model.Faults` — the problems of a document are its faults, one by one

The grammar asks something of every part of a document that it reaches (`Form`): a part has the kind that the
form asks for, and then the walk goes on to its own parts (`Form.parts`), or it is at fault (`Faulty`). So is a
member that has to be there and is not. An entity value that fits neither way of writing one is walked in both.

The problems of a document are exactly its faults, with the steps to them (`mem_problemsOf_iff`).
-/

namespace IntentLint

/-! ## The walk -/

/-- What the grammar asks of a part. -/
inductive Form where
  | model
  | intents
  | intent
  | entityTypes
  | entityType
  | values
  | value
  | structuredValue
  | texts
  | text
deriving DecidableEq

/-- A part that the walk goes on to: the step to it, what is asked of it, and what stands there. Nothing stands
there when a member that has to be there is missing. -/
structure Part where
  step : Step
  form : Form
  content : Option Json

namespace Form

/-- The part has the kind that the form asks for. A value may be of any kind: it is walked in two ways. -/
def Admits : Form → Json → Prop
  | .text => Json.IsText
  | .texts | .values => Json.IsListOf fun _ => True
  | .value => fun _ => True
  | _ => Json.IsObject

/-- What a part should have been, if it has the wrong kind. -/
def defect : Form → Defect
  | .model => .notRecord .languageModel
  | .intent => .notRecord .intent
  | .entityType => .notRecord .entityType
  | .structuredValue => .notRecord .structuredValue
  | .intents | .entityTypes => .notTable
  | .texts | .values => .notList
  | .text | .value => .notText

/-- A member that has to be there. -/
def required (name : Text) (form : Form) (v : Json) : List Part := [⟨.member name, form, v.member? name⟩]

/-- A member that may be absent or null. -/
def possible (name : Text) (form : Form) (v : Json) : List Part :=
  (Json.unlessNull (v.member? name)).toList.map fun x => ⟨.member name, form, some x⟩

/-- The items of a list. -/
def items (form : Form) (v : Json) : List Part :=
  v.items.zipIdx.map fun p => ⟨.item p.2, form, some p.1⟩

/-- The members of a table. -/
def entries (form : Form) (v : Json) : List Part := v.members.map fun m => ⟨.member m.1, form, some m.2⟩

/-- The spelling of the member for the entity types that counts. -/
def typesName (v : Json) : Text := if (v.member? "entityTypes").isSome then "entityTypes" else "entity_types"

/-- The parts that the walk goes on to from a part of the right kind, in its order. An entity value that fits
neither way of writing one is walked as a bare text and then as a value with synonyms. -/
def parts (v : Json) : Form → List Part
  | .model => required "intents" .intents v ++ possible (typesName v) .entityTypes v
  | .intents => entries .intent v
  | .intent => possible "phrases" .texts v
  | .entityTypes => entries .entityType v
  | .entityType => possible "values" .values v
  | .values => items .value v
  | .value => if v.IsValue then [] else [⟨.bare, .text, some v⟩, ⟨.structured, .structuredValue, some v⟩]
  | .structuredValue => required "value" .text v ++ possible "synonyms" .texts v
  | .texts => items .text v
  | .text => []

end Form

/-- The place that a path leads to is at fault: a member is missing there, or what stands there has the wrong
kind. -/
inductive Faulty : Form → Option Json → List Step → Defect → Prop
  | missing (form : Form) : Faulty form none [] .missing
  | kind {form : Form} {v : Json} (h : ¬ form.Admits v) : Faulty form (some v) [] form.defect
  | part {form : Form} {v : Json} {p : Part} {path : List Step} {defect : Defect} (hv : form.Admits v)
      (hp : p ∈ form.parts v) (h : Faulty p.form p.content path defect) :
      Faulty form (some v) (p.step :: path) defect

/-! ## The problems of a part -/

/-- The problems of a part that is read as the form asks. -/
def Form.problemsOf : Form → Option Json → List Problem
  | _, none => [⟨[], .missing⟩]
  | .model, some v => (LanguageModel.ofJson v).problems
  | .intents, some v => (Reading.table Intent.ofJson v).problems
  | .intent, some v => (Intent.ofJson v).problems
  | .entityTypes, some v => (Reading.table EntityType.ofJson v).problems
  | .entityType, some v => (EntityType.ofJson v).problems
  | .values, some v => (Reading.list EntityValue.ofJson v).problems
  | .value, some v => (EntityValue.ofJson v).problems
  | .structuredValue, some v => (EntityValue.structuredOfJson v).problems
  | .texts, some v => (Reading.list Reading.text v).problems
  | .text, some v => (Reading.text v).problems

/-- The problems of a part, seen from the whole. -/
def Part.problems (p : Part) : List Problem := (p.form.problemsOf p.content).map (Problem.under p.step)

section Readings

variable {α : Type} {read : Json → Reading α} (form : Form)

theorem problems_required_eq (h : ∀ v, (read v).problems = form.problemsOf (some v)) (name : Text)
    (members : List (Text × Json)) :
    (Reading.required name read members).problems =
      (Form.required name form (.object members)).flatMap Part.problems := by
  have hmember : (Json.object members).member? name = Entries.get? name members := rfl
  rw [Reading.problems_required, Form.required, List.flatMap_singleton, Part.problems, hmember]
  cases Entries.get? name members with
  | none => cases form <;> rfl
  | some v => exact congrArg (List.map (Problem.under (.member name))) (h v)

theorem problems_possible_eq (h : ∀ v, (read v).problems = form.problemsOf (some v)) (name : Text)
    (members : List (Text × Json)) :
    (Reading.possible name read members).problems =
      (Form.possible name form (.object members)).flatMap Part.problems := by
  rw [Reading.problems_possible, Form.possible, List.flatMap_map]
  simp only [h]
  rfl

theorem problems_list_eq (h : ∀ v, (read v).problems = form.problemsOf (some v)) (vs : List Json) :
    (Reading.list read (.array vs)).problems = (Form.items form (.array vs)).flatMap Part.problems := by
  rw [Reading.problems_list, Form.items, List.flatMap_map]
  simp only [h]
  rfl

theorem problems_table_eq (h : ∀ v, (read v).problems = form.problemsOf (some v))
    (members : List (Text × Json)) :
    (Reading.table read (.object members)).problems =
      (Form.entries form (.object members)).flatMap Part.problems := by
  rw [Reading.problems_table, Form.entries, List.flatMap_map]
  simp only [h]
  rfl

end Readings

/-- A part of the wrong kind has one problem, whatever stands in it. -/
theorem Form.problemsOf_of_not_admits {form : Form} {v : Json} (h : ¬ form.Admits v) :
    form.problemsOf (some v) = [⟨[], form.defect⟩] := by
  cases form with
  | value => exact absurd trivial h
  | text => cases v with
    | text t => exact absurd trivial h
    | _ => rfl
  | texts | values => cases v with
    | array vs => exact absurd (fun _ _ => trivial) h
    | _ => rfl
  | _ => cases v with
    | object members => exact absurd trivial h
    | _ => rfl

/-- The member for the entity types is sought under the same name in the walk and in the reading. -/
theorem Form.typesName_object (members : List (Text × Json)) :
    Form.typesName (.object members) = LanguageModel.entityTypesName members := by
  have hmember : (Json.object members).member? "entityTypes" =
      Entries.get? ("entityTypes" : Text) members := rfl
  unfold Form.typesName LanguageModel.entityTypesName
  rw [hmember]
  cases h : Entries.get? ("entityTypes" : Text) members <;> rfl

/-- An entity value that fits neither way of writing one has one problem as a bare text, and then those of the
value with synonyms. -/
theorem EntityValue.problems_of_not_value {v : Json} (h : ¬ v.IsValue) :
    (ofJson v).problems =
      ⟨[.bare], .notText⟩ :: (structuredOfJson v).problems.map (Problem.under .structured) := by
  have htext : ¬ v.IsText := fun htext => h (.inl htext)
  have hvalue : ¬ ∃ value, structuredOfJson v = .ok value :=
    fun hread => h (.inr ((exists_structuredOfJson_iff v).mp hread))
  rw [ofJson_of_not_text htext]
  cases hread : structuredOfJson v with
  | ok value => exact absurd ⟨value, hread⟩ hvalue
  | error problems => rfl

/-- A part of the right kind has the problems of its parts. -/
theorem Form.problemsOf_of_admits {form : Form} {v : Json} (h : form.Admits v) :
    form.problemsOf (some v) = (form.parts v).flatMap Part.problems := by
  cases form with
  | model => cases v with
    | object members =>
      rw [problemsOf, LanguageModel.ofJson, Reading.problems_map, Reading.problems_both,
        problems_required_eq .intents fun _ => rfl,
        problems_possible_eq .entityTypes fun _ => rfl, parts, typesName_object,
        List.flatMap_append]
    | _ => exact h.elim
  | intents => cases v with
    | object members => exact problems_table_eq .intent (fun _ => rfl) members
    | _ => exact h.elim
  | intent => cases v with
    | object members =>
      rw [problemsOf, Intent.ofJson, Reading.problems_map,
        problems_possible_eq .texts fun _ => rfl, parts]
    | _ => exact h.elim
  | entityTypes => cases v with
    | object members => exact problems_table_eq .entityType (fun _ => rfl) members
    | _ => exact h.elim
  | entityType => cases v with
    | object members =>
      rw [problemsOf, EntityType.ofJson, Reading.problems_map,
        problems_possible_eq .values fun _ => rfl, parts]
    | _ => exact h.elim
  | values => cases v with
    | array vs => exact problems_list_eq .value (fun _ => rfl) vs
    | _ => exact h.elim
  | value =>
    rw [problemsOf, parts]
    split
    · next hvalue =>
      obtain ⟨value, hread⟩ := (EntityValue.exists_ofJson_iff v).mpr hvalue
      rw [hread]
      rfl
    · next hvalue =>
      have hbare : (Form.text).problemsOf (some v) = [⟨[], .notText⟩] := by
        cases v with
        | text t => exact absurd (.inl trivial) hvalue
        | _ => rfl
      rw [EntityValue.problems_of_not_value hvalue, List.flatMap_cons, List.flatMap_singleton,
        Part.problems, hbare]
      rfl
  | structuredValue => cases v with
    | object members =>
      rw [problemsOf, EntityValue.structuredOfJson, Reading.problems_map, Reading.problems_both,
        problems_required_eq .text fun _ => rfl,
        problems_possible_eq .texts fun _ => rfl, parts, List.flatMap_append]
    | _ => exact h.elim
  | texts => cases v with
    | array vs => exact problems_list_eq .text (fun _ => rfl) vs
    | _ => exact h.elim
  | text => cases v with
    | text t => rfl
    | _ => exact h.elim

/-! ## Problems are faults -/

/-- A part has a problem exactly where it is at fault. -/
theorem mem_problemsOf_iff {form : Form} {content : Option Json} {path : List Step} {defect : Defect} :
    ⟨path, defect⟩ ∈ form.problemsOf content ↔ Faulty form content path defect := by
  constructor
  · intro hmem
    induction path generalizing form content with
    | nil =>
      cases content with
      | none =>
        rw [Form.problemsOf, List.mem_singleton] at hmem
        cases hmem
        exact .missing form
      | some v =>
        by_cases hv : form.Admits v
        · -- every problem of a part stands behind a step
          rw [Form.problemsOf_of_admits hv, List.mem_flatMap] at hmem
          obtain ⟨p, -, hp⟩ := hmem
          obtain ⟨problem, -, heq⟩ := List.mem_map.mp hp
          cases heq
        · rw [Form.problemsOf_of_not_admits hv, List.mem_singleton] at hmem
          cases hmem
          exact .kind hv
    | cons step path ih =>
      cases content with
      | none =>
        rw [Form.problemsOf, List.mem_singleton] at hmem
        cases hmem
      | some v =>
        by_cases hv : form.Admits v
        · rw [Form.problemsOf_of_admits hv, List.mem_flatMap] at hmem
          obtain ⟨p, hp, hproblem⟩ := hmem
          obtain ⟨problem, hinner, heq⟩ := List.mem_map.mp hproblem
          cases heq
          exact .part hv hp (ih hinner)
        · rw [Form.problemsOf_of_not_admits hv, List.mem_singleton] at hmem
          cases hmem
  · intro hfault
    induction hfault with
    | missing form => exact List.mem_singleton.mpr rfl
    | kind hv => rw [Form.problemsOf_of_not_admits hv]; exact List.mem_singleton.mpr rfl
    | part hv hp _ ih =>
      rw [Form.problemsOf_of_admits hv, List.mem_flatMap]
      exact ⟨_, hp, List.mem_map_of_mem ih⟩

end IntentLint

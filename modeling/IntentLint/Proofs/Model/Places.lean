import IntentLint.Proofs.Json.Names
import IntentLint.Proofs.Model.Faults
import IntentLint.Proofs.Model.Problems
import IntentLint.Proofs.Text.Numeral
import IntentLint.Proofs.Text.Utf8
import Mathlib.Data.List.Nodup

/-!
# `Proofs.Model.Places` — the order of the problems of a document, and the places they name

The walk through a document comes to its parts one after the other, and to what is in a part before it leaves it
(`Before`). The problems of a document stand in the order of the walk. In a document with distinct names the walk
comes to every place once, so no two problems are at the same place.

A problem names its place by the steps to it. A name in it is shown as it is written, but for lone surrogates.
-/

namespace IntentLint

/-- The walk comes to the one place before it comes to the other. -/
inductive Before : Form → Option Json → List Step → List Step → Prop
  | earlier {form : Form} {v : Json} {p q : Part} (h : [p, q].Sublist (form.parts v)) (path path' : List Step) :
      Before form (some v) (p.step :: path) (q.step :: path')
  | within {form : Form} {v : Json} {p : Part} {path path' : List Step} (hp : p ∈ form.parts v)
      (h : Before p.form p.content path path') : Before form (some v) (p.step :: path) (p.step :: path')

/-! ## Order -/

namespace Form

/-- How many steps a walk can still take. -/
def height : Form → Nat
  | .text => 0
  | .texts => 1
  | .structuredValue | .intent => 2
  | .value | .intents => 3
  | .values => 4
  | .entityType => 5
  | .entityTypes => 6
  | .model => 7

theorem form_of_mem_required {name : Text} {form : Form} {v : Json} {p : Part}
    (h : p ∈ required name form v) : p.form = form := by
  cases List.mem_singleton.mp h
  rfl

theorem form_of_mem_possible {name : Text} {form : Form} {v : Json} {p : Part}
    (h : p ∈ possible name form v) : p.form = form := by
  obtain ⟨x, -, rfl⟩ := List.mem_map.mp h
  rfl

theorem form_of_mem_items {form : Form} {v : Json} {p : Part} (h : p ∈ items form v) : p.form = form := by
  obtain ⟨x, -, rfl⟩ := List.mem_map.mp h
  rfl

theorem form_of_mem_entries {form : Form} {v : Json} {p : Part} (h : p ∈ entries form v) :
    p.form = form := by
  obtain ⟨x, -, rfl⟩ := List.mem_map.mp h
  rfl

theorem height_lt_of_mem_parts {form : Form} {v : Json} {p : Part} (h : p ∈ form.parts v) :
    p.form.height < form.height := by
  cases form with
  | text => cases h
  | texts | values => rw [form_of_mem_items h]; decide
  | intents | entityTypes => rw [form_of_mem_entries h]; decide
  | intent | entityType => rw [form_of_mem_possible h]; decide
  | model | structuredValue =>
    rcases List.mem_append.mp h with h | h
    · rw [form_of_mem_required h]; decide
    · rw [form_of_mem_possible h]; decide
  | value =>
    rw [parts] at h
    split at h
    · cases h
    · rcases List.mem_pair.mp h with rfl | rfl <;> simp only [height] <;> decide

end Form

/-- The problems of a part stand in the order of the walk, by induction on what is left of it. -/
theorem pairwise_problemsOf (form : Form) (content : Option Json) :
    (form.problemsOf content).Pairwise fun p q => Before form content p.path q.path := by
  cases content with
  | none => exact List.pairwise_singleton _ _
  | some v =>
    by_cases hv : form.Admits v
    · rw [Form.problemsOf_of_admits hv, List.pairwise_flatMap]
      constructor
      · -- inside one part
        intro p hp
        have hlower := Form.height_lt_of_mem_parts hp
        have hpart := pairwise_problemsOf p.form p.content
        rw [Part.problems, List.pairwise_map]
        exact hpart.imp fun h => .within hp h
      · -- from one part to a later one
        rw [List.pairwise_iff_forall_sublist]
        intro p q hpq a ha b hb
        obtain ⟨a', -, rfl⟩ := List.mem_map.mp ha
        obtain ⟨b', -, rfl⟩ := List.mem_map.mp hb
        exact .earlier hpq _ _
    · rw [Form.problemsOf_of_not_admits hv]
      exact List.pairwise_singleton _ _
termination_by form.height

/-! ## Places -/

namespace Form

variable {form : Form} {v : Json}

theorem steps_required (name : Text) : (required name form v).map Part.step = [.member name] := rfl

theorem steps_possible_sublist (name : Text) :
    ((possible name form v).map Part.step).Sublist [.member name] := by
  unfold possible
  cases Json.unlessNull (v.member? name) with
  | none => exact List.nil_sublist _
  | some x => exact List.Sublist.refl _

theorem nodup_items : ((items form v).map Part.step).Nodup := by
  have hsteps : (items form v).map Part.step = (v.items.zipIdx.map Prod.snd).map Step.item := by
    rw [items, List.map_map, List.map_map]
    rfl
  rw [hsteps, List.zipIdx_map_snd]
  exact List.Nodup.map (fun _ _ h => Step.item.inj h) List.nodup_range'

theorem nodup_entries (h : v.Distinct) : ((entries form v).map Part.step).Nodup := by
  have hsteps : (entries form v).map Part.step = (Entries.keys v.members).map Step.member := by
    rw [entries, List.map_map, Entries.keys, List.map_map]
    rfl
  have hnames : (Entries.keys v.members).Nodup := by
    cases h with
    | object names _ => exact names
    | _ => exact List.nodup_nil
  rw [hsteps]
  exact List.Nodup.map (fun _ _ h => Step.member.inj h) hnames

/-- The parts of a part stand at places of their own. -/
theorem nodup_parts (h : v.Distinct) : ((form.parts v).map Part.step).Nodup := by
  have hpossible : ∀ {name : Text} {form : Form}, ((possible name form v).map Part.step).Nodup :=
    fun {name _} => (steps_possible_sublist name).nodup (List.nodup_singleton _)
  have hrecord : ∀ {first second : Text} {form form' : Form}, first ≠ second →
      ((required first form v ++ possible second form' v).map Part.step).Nodup := by
    intro first second form form' hne
    rw [List.map_append, steps_required]
    refine ((steps_possible_sublist second).cons_cons (.member first)).nodup ?_
    rw [List.nodup_cons, List.mem_singleton]
    exact ⟨fun heq => hne (Step.member.inj heq), List.nodup_singleton _⟩
  cases form with
  | text => exact List.nodup_nil
  | texts | values => exact nodup_items
  | intents | entityTypes => exact nodup_entries h
  | intent | entityType => exact hpossible
  | model =>
    refine hrecord ?_
    unfold typesName
    split <;> decide
  | structuredValue => exact hrecord (by decide)
  | value =>
    rw [parts]
    split
    · exact List.nodup_nil
    · show [Step.bare, Step.structured].Nodup
      decide

theorem distinct_of_member? {name : Text} {x : Json} (h : v.Distinct) (hx : v.member? name = some x) :
    x.Distinct := by
  cases h with
  | object _ values => exact values _ (Entries.mem_of_get? hx)
  | _ => cases hx

/-- What stands at the parts of a part has distinct names too. -/
theorem distinct_of_mem_parts {p : Part} (h : v.Distinct) (hp : p ∈ form.parts v) :
    ∀ x ∈ p.content, x.Distinct := by
  have hrequired : ∀ {name : Text} {form : Form}, p ∈ required name form v → ∀ x ∈ p.content, x.Distinct := by
    intro name form hp x hx
    cases List.mem_singleton.mp hp
    exact distinct_of_member? h hx
  have hpossible : ∀ {name : Text} {form : Form}, p ∈ possible name form v → ∀ x ∈ p.content, x.Distinct := by
    intro name form hp x hx
    obtain ⟨y, hy, rfl⟩ := List.mem_map.mp hp
    cases hx
    exact distinct_of_member? h (Json.eq_some_of_unlessNull (Option.mem_toList.mp hy)).1
  have hitems : ∀ {form : Form}, p ∈ items form v → ∀ x ∈ p.content, x.Distinct := by
    intro form hp x hx
    obtain ⟨⟨y, i⟩, hy, rfl⟩ := List.mem_map.mp hp
    cases hx
    cases h with
    | array items => exact items y (List.fst_mem_of_mem_zipIdx hy)
    | _ => cases hy
  have hentries : ∀ {form : Form}, p ∈ entries form v → ∀ x ∈ p.content, x.Distinct := by
    intro form hp x hx
    obtain ⟨m, hm, rfl⟩ := List.mem_map.mp hp
    cases hx
    cases h with
    | object _ values => exact values m hm
    | _ => cases hm
  cases form with
  | text => cases hp
  | texts | values => exact hitems hp
  | intents | entityTypes => exact hentries hp
  | intent | entityType => exact hpossible hp
  | model | structuredValue => exact (List.mem_append.mp hp).elim hrequired hpossible
  | value =>
    rw [parts] at hp
    split at hp
    · cases hp
    · intro x hx
      rcases List.mem_pair.mp hp with rfl | rfl <;> cases hx <;> exact h

end Form

/-- In a document with distinct names the walk comes to every place once. -/
theorem Before.ne {form : Form} {content : Option Json} {path path' : List Step}
    (h : Before form content path path') (hdistinct : ∀ v ∈ content, v.Distinct) : path ≠ path' := by
  induction h with
  | earlier hpq path path' =>
    intro heq
    have hsteps := (hpq.map Part.step).nodup (Form.nodup_parts (hdistinct _ rfl))
    rw [List.map_cons, (List.cons.inj heq).1] at hsteps
    exact (List.nodup_cons.mp hsteps).1 List.mem_cons_self
  | within hp _ ih =>
    intro heq
    exact ih (Form.distinct_of_mem_parts (hdistinct _ rfl) hp) (List.cons.inj heq).2

/-- No two problems are at the same place. -/
theorem nodup_places {form : Form} {v : Json} (h : v.Distinct) :
    ((form.problemsOf (some v)).map Problem.path).Nodup := by
  rw [List.Nodup, List.pairwise_map]
  refine (pairwise_problemsOf form (some v)).imp fun hbefore => hbefore.ne ?_
  rintro x ⟨⟩
  exact h

/-! ## Names of places -/

/-- A step as a part of a path, with its name as it is written. -/
def Step.written : Step → Text
  | .member name => name
  | .item index => Text.ofNat index
  | .bare => "str"
  | .structured => RecordKind.structuredValue.name

/-- The path of a problem, with its names as they are written. -/
def Problem.writtenPath (p : Problem) : Text := Text.join "." (p.path.map Step.written)

namespace Step

theorem shownName_append (s t : Text) : shownName (s ++ t) = shownName s ++ shownName t := List.flatMap_append

/-- A text without lone surrogates is shown as it is. -/
theorem shownName_of_scalar {t : Text} (h : Utf8.Scalar t) : shownName t = t := by
  have hpoint : ∀ c ∈ t, (if c.isSurrogate then List.replicate 3 (CodePoint.ofChar '\uFFFD') else [c]) = [c] :=
    fun c hc => if_neg (by simp [h c hc])
  rw [shownName, List.flatMap_congr hpoint, List.flatMap_singleton']

theorem words_eq (step : Step) : step.words = shownName step.written := by
  cases step with
  | member name => rfl
  | item index =>
    have hscalar : Utf8.Scalar (Text.ofNat index) :=
      fun c hc => Text.not_surrogate_of_isDigit (Text.isDigit_of_mem_ofNat hc)
    exact (shownName_of_scalar hscalar).symm
  | bare => decide
  | structured => decide

theorem join_words (path : List Step) :
    Text.join "." (path.map words) = shownName (Text.join "." (path.map written)) := by
  induction path with
  | nil => rfl
  | cons step rest ih =>
    cases rest with
    | nil => simp only [List.map_cons, List.map_nil, Text.join, List.intercalate_singleton, words_eq]
    | cons next rest =>
      have hdot : shownName "." = "." := by decide
      simp only [List.map_cons, Text.join, List.intercalate_cons_cons, shownName_append, words_eq, hdot] at ih ⊢
      rw [ih]

end Step

/-- Behind a first step that shows something, a problem names its path. -/
theorem Problem.place_of_head {p : Problem} {step : Step} (hstep : p.path.head? = some step)
    (hne : step.words ≠ []) : p.place = Step.shownName p.writtenPath := by
  obtain ⟨path, defect⟩ := p
  cases path with
  | nil => cases hstep
  | cons first rest =>
    cases hstep
    obtain ⟨c, later, hwords⟩ := List.exists_cons_of_ne_nil hne
    have hjoin : (Text.join "." ((step :: rest).map Step.words)).head? = some c := by
      rw [List.map_cons, Text.head?_join hne, hwords, List.head?_cons]
    obtain ⟨more, hmore⟩ := List.head?_eq_some_iff.mp hjoin
    rw [writtenPath, ← Step.join_words]
    simp only [place, hmore]

namespace LanguageModel

/-- A problem of a model names its path, and the root by a name of its own. -/
theorem place_of_mem {v : Json} {p : Problem} (hp : p ∈ (ofJson v).problems) :
    p.place = if p.path = [] then ("<root>" : Text) else Step.shownName p.writtenPath := by
  cases v with
  | object members =>
    cases hread : ofJson (.object members) with
    | ok m =>
      rw [hread] at hp
      cases hp
    | error problems =>
      rw [hread] at hp
      have hfirst : ∃ step : Step, p.path.head? = some step ∧ step.words ≠ [] := by
        rcases head_path_of_object hread p hp with hstep | hstep
        · exact ⟨_, hstep, by decide⟩
        · refine ⟨_, hstep, ?_⟩
          unfold entityTypesName
          split <;> decide
      obtain ⟨step, hstep, hne⟩ := hfirst
      have hpath : p.path ≠ [] := by
        intro hnil
        rw [hnil] at hstep
        cases hstep
      rw [if_neg hpath]
      exact Problem.place_of_head hstep hne
  | _ =>
    cases List.mem_singleton.mp hp
    rfl

end LanguageModel

/-! ## What a failure tells -/

theorem EntityValue.telling_ofJson (v : Json) : (ofJson v).Telling := by
  by_cases htext : v.IsText
  · obtain ⟨value, hread⟩ := (exists_ofJson_iff v).mpr (.inl htext)
    rw [hread]
    exact nofun
  · rw [ofJson_of_not_text htext]
    cases (structuredOfJson v).under .structured with
    | ok value => exact nofun
    | error problems => exact nofun

theorem EntityType.telling_ofJson (v : Json) : (ofJson v).Telling := by
  cases v with
  | object members =>
    exact (Reading.telling_possible (Reading.telling_list EntityValue.telling_ofJson) "values" members).map _
  | _ => exact Reading.telling_refuse _

theorem Intent.telling_ofJson (v : Json) : (ofJson v).Telling := by
  cases v with
  | object members =>
    exact (Reading.telling_possible (Reading.telling_list Reading.telling_text) "phrases" members).map _
  | _ => exact Reading.telling_refuse _

namespace LanguageModel

theorem telling_ofJson (v : Json) : (ofJson v).Telling := by
  cases v with
  | object members =>
    have hintents := Reading.telling_required (Reading.telling_table Intent.telling_ofJson) "intents" members
    have htypes := Reading.telling_possible (Reading.telling_table EntityType.telling_ofJson)
      (entityTypesName members) members
    exact (hintents.both htypes).map _
  | _ => exact Reading.telling_refuse _

/-- **What is wrong with a document, told in full.** A document whose names are distinct is refused exactly when
it has problems, and the message then tells all of them, each with its place. The problems are the faults of the
document: one for every place at fault, and none else. They stand in the order of the walk through the document;
an entity value that fits neither way of writing one has its problem as a bare text, and then those as a value
with synonyms. A place is the path to it, where a lone surrogate of a name shows as three replacement characters,
and the root has a name of its own. -/
theorem problems_exact (locale : Text) {v : Json} (h : v.Distinct) :
    ((ofJson v).problems = [] ↔ ∃ m, Source.readDocument locale v = .ok m) ∧
    ((ofJson v).problems ≠ [] → ∃ failure, Source.readDocument locale v = .error (.lint failure) ∧
      failure.locale = locale ∧
      failure.message = "Invalid structure in '" ++ locale ++ "' model: " ++
        Text.join "; " ((ofJson v).problems.map fun p => p.place ++ ": " ++ p.defect.words)) ∧
    (∀ path defect, ⟨path, defect⟩ ∈ (ofJson v).problems ↔ Faulty .model (some v) path defect) ∧
    ((ofJson v).problems.map Problem.path).Nodup ∧
    (ofJson v).problems.Pairwise (fun p q => Before .model (some v) p.path q.path) ∧
    (∀ value : Json, ¬ value.IsValue →
      (EntityValue.ofJson value).problems =
        ⟨[.bare], .notText⟩ :: (EntityValue.structuredOfJson value).problems.map (Problem.under .structured)) ∧
    ∀ p ∈ (ofJson v).problems,
      p.place = if p.path = [] then ("<root>" : Text) else Step.shownName p.writtenPath := by
  refine ⟨?_, fun hproblems => ?_, fun path defect => ?_, ?_, ?_, ?_, fun p hp => ?_⟩
  · simp only [readDocument_eq_ok]
    exact (telling_ofJson v).problems_eq_nil_iff
  · cases hread : ofJson v with
    | ok m =>
      rw [hread] at hproblems
      exact absurd rfl hproblems
    | error problems =>
      refine ⟨⟨locale, .unfit problems⟩, ?_, rfl, rfl⟩
      unfold Source.readDocument
      rw [hread]
      rfl
  · show ⟨path, defect⟩ ∈ Form.model.problemsOf (some v) ↔ _
    exact mem_problemsOf_iff
  · show ((Form.model.problemsOf (some v)).map Problem.path).Nodup
    exact nodup_places h
  · exact pairwise_problemsOf .model (some v)
  · exact fun value hvalue => EntityValue.problems_of_not_value hvalue
  · exact place_of_mem hp

/-- A document without intents, and with a value that has no text and no list of synonyms. -/
def faultyText : Text :=
  "\x7b\"entityTypes\": \x7b\"gem\": \x7b\"values\": [\x7b\"synonyms\": 1\x7d]\x7d\x7d\x7d"

/-- The problems of that document. -/
def faultyTextProblems : List Problem :=
  let value : List Step := [.member "entityTypes", .member "gem", .member "values", .item 0]
  [⟨[.member "intents"], .missing⟩,
    ⟨value ++ [.bare], .notText⟩,
    ⟨value ++ [.structured, .member "value"], .missing⟩,
    ⟨value ++ [.structured, .member "synonyms"], .notList⟩]

theorem problems_exact_faultyText :
    ∃ v, Json.decode faultyText = .ok v ∧ v.Distinct ∧ (ofJson v).problems = faultyTextProblems ∧
      ∃ failure, Source.readDocument "en" v = .error (.lint failure) ∧
        failure.message =
          ("Invalid structure in 'en' model: intents: Field required; " : Text) ++
            "entityTypes.gem.values.0.str: Input should be a valid string; " ++
            "entityTypes.gem.values.0.StructuredEntityValue.value: Field required; " ++
            "entityTypes.gem.values.0.StructuredEntityValue.synonyms: Input should be a valid list" := by
  have hread : (Json.decode faultyText).toOption.map (fun v => (ofJson v).problems) =
      some faultyTextProblems := by
    decide +kernel
  cases hdecode : Json.decode faultyText with
  | error error =>
    rw [hdecode] at hread
    cases hread
  | ok v =>
    rw [hdecode] at hread
    have hproblems : (ofJson v).problems = faultyTextProblems := Option.some.inj hread
    have hdistinct := Json.decode_distinct hdecode
    refine ⟨v, rfl, hdistinct, hproblems, ?_⟩
    obtain ⟨-, hfails, -⟩ := problems_exact "en" hdistinct
    rw [hproblems] at hfails
    obtain ⟨failure, hfailure, -, hmessage⟩ := hfails nofun
    refine ⟨failure, hfailure, ?_⟩
    rw [hmessage]
    decide +kernel

/-- An intent of the wrong kind whose name is a lone surrogate. -/
def surrogateIntent : Json :=
  .object [("intents", .object [([⟨0xD800, by decide⟩], .number (.integer 1))])]

/-- **A place need not be the path as it is written**: a name that is a lone surrogate is shown as something
else. -/
theorem place_surrogateIntent :
    ∃ p, Source.readDocument "en" surrogateIntent = .error (.lint ⟨"en", .unfit [p]⟩) ∧
      p.path ≠ [] ∧ p.place ≠ p.writtenPath := by
  refine ⟨⟨[.member "intents", .member [⟨0xD800, by decide⟩]], .notRecord .intent⟩, rfl, ?_, ?_⟩
  · decide
  · decide

end LanguageModel

end IntentLint

import IntentLint.Linter
import IntentLint.Proofs.Model.Readings

/-!
# `Proofs.Model.Grammar` — which documents are language models, and what is read from them

The grammar of language models is said here over documents alone (`Json.IsModel`). A document is read exactly
when it is in the grammar. What is read from it is what stands in it: the phrases and values of the model are
the texts of the document, in its order, and every value has the form in which it is written. And the document
of a model is read as that model, in either spelling of the member for its entity types.
-/

namespace IntentLint

/-! ## The grammar -/

namespace Json

/-- The document is an object. -/
def IsObject : Json → Prop
  | .object _ => True
  | _ => False

/-- The document is a text. -/
def IsText : Json → Prop
  | .text _ => True
  | _ => False

/-- The document is a list whose items all have a form. -/
def IsListOf (form : Json → Prop) : Json → Prop
  | .array vs => ∀ v ∈ vs, form v
  | _ => False

/-- The document is an object whose members all have a form. -/
def IsTableOf (form : Json → Prop) : Json → Prop
  | .object members => ∀ m ∈ members, form m.2
  | _ => False

/-- A value with synonyms: an object with a text as its `value`, and with synonyms that are absent, null or a
list of texts. -/
def IsStructuredValue (v : Json) : Prop :=
  v.IsObject ∧ (∃ x ∈ v.member? "value", x.IsText) ∧
    ∀ x ∈ unlessNull (v.member? "synonyms"), x.IsListOf IsText

/-- A value is a text alone or a value with synonyms. -/
def IsValue (v : Json) : Prop := v.IsText ∨ v.IsStructuredValue

/-- An entity type: an object whose `values` are absent, null or a list of values. -/
def IsEntityType (v : Json) : Prop :=
  v.IsObject ∧ ∀ x ∈ unlessNull (v.member? "values"), x.IsListOf IsValue

/-- An intent: an object whose `phrases` are absent, null or a list of texts. -/
def IsIntent (v : Json) : Prop :=
  v.IsObject ∧ ∀ x ∈ unlessNull (v.member? "phrases"), x.IsListOf IsText

/-- The member for the entity types, in the spelling that counts: the first one, if it is there at all. -/
def typesMember? (v : Json) : Option Json := (v.member? "entityTypes").or (v.member? "entity_types")

/-- A language model: an object that has `intents`, a table of intents, and whose entity types are absent, null
or a table of entity types. -/
def IsModel (v : Json) : Prop :=
  v.IsObject ∧ (∃ x ∈ v.member? "intents", x.IsTableOf IsIntent) ∧
    ∀ x ∈ unlessNull v.typesMember?, x.IsTableOf IsEntityType

/-! ### The grammar is decidable -/

instance : DecidablePred IsObject
  | .object _ => .isTrue trivial
  | .null | .bool _ | .number _ | .text _ | .array _ => .isFalse id

instance : DecidablePred IsText
  | .text _ => .isTrue trivial
  | .null | .bool _ | .number _ | .array _ | .object _ => .isFalse id

instance (form : Json → Prop) [DecidablePred form] : DecidablePred (IsListOf form)
  | .array vs => inferInstanceAs (Decidable (∀ v ∈ vs, form v))
  | .null | .bool _ | .number _ | .text _ | .object _ => .isFalse id

instance (form : Json → Prop) [DecidablePred form] : DecidablePred (IsTableOf form)
  | .object members => inferInstanceAs (Decidable (∀ m ∈ members, form m.2))
  | .null | .bool _ | .number _ | .text _ | .array _ => .isFalse id

instance : DecidablePred IsStructuredValue := fun _ => inferInstanceAs (Decidable (_ ∧ _ ∧ _))

instance : DecidablePred IsValue := fun _ => inferInstanceAs (Decidable (_ ∨ _))

instance : DecidablePred IsEntityType := fun _ => inferInstanceAs (Decidable (_ ∧ _))

instance : DecidablePred IsIntent := fun _ => inferInstanceAs (Decidable (_ ∧ _))

instance : DecidablePred IsModel := fun _ => inferInstanceAs (Decidable (_ ∧ _ ∧ _))

end Json

/-! ## What can be read -/

namespace Reading

variable {α : Type} {read : Json → Reading α} {form : Json → Prop}

theorem exists_text_iff {v : Json} : (∃ t, text v = .ok t) ↔ v.IsText := by
  cases v <;> simp [text_eq_ok, Json.IsText]

theorem exists_list_iff (h : ∀ v, (∃ a, read v = .ok a) ↔ form v) (v : Json) :
    (∃ xs, list read v = .ok xs) ↔ v.IsListOf form := by
  cases v with
  | array vs =>
    have hitems := List.forall_mem_map (f := Prod.fst) (l := vs.zipIdx) (P := form)
    rw [List.zipIdx_map_fst] at hitems
    rw [list, exists_all_iff, List.mapIdx_eq_zipIdx_map, List.forall_mem_map]
    simp only [under_eq_ok, h, Json.IsListOf, hitems]
  | _ => simp [list_eq_ok, Json.IsListOf]

theorem exists_table_iff (h : ∀ v, (∃ a, read v = .ok a) ↔ form v) (v : Json) :
    (∃ entries, table read v = .ok entries) ↔ v.IsTableOf form := by
  cases v with
  | object members =>
    rw [table, exists_all_iff, List.forall_mem_map]
    simp only [map_eq_ok, under_eq_ok, ← h, Json.IsTableOf]
    refine forall_congr' fun m => imp_congr_right fun _ => ?_
    constructor
    · rintro ⟨_, x, hx, rfl⟩
      exact ⟨x, hx⟩
    · rintro ⟨x, hx⟩
      exact ⟨_, x, hx, rfl⟩
  | _ => simp [table_eq_ok, Json.IsTableOf]

theorem exists_required_iff (h : ∀ v, (∃ a, read v = .ok a) ↔ form v) {name : Text}
    {members : List (Text × Json)} :
    (∃ a, required name read members = .ok a) ↔ ∃ v ∈ Entries.get? name members, form v := by
  simp only [required_eq_ok, ← h]
  constructor
  · rintro ⟨a, v, hv, ha⟩
    exact ⟨v, hv, a, ha⟩
  · rintro ⟨v, hv, a, ha⟩
    exact ⟨a, v, hv, ha⟩

theorem exists_possible_iff (h : ∀ v, (∃ a, read v = .ok a) ↔ form v) {name : Text}
    {members : List (Text × Json)} :
    (∃ found, possible name read members = .ok found) ↔
      ∀ v ∈ Json.unlessNull (Entries.get? name members), form v := by
  simp only [possible_eq_ok, ← h]
  cases Json.unlessNull (Entries.get? name members) with
  | none =>
    constructor
    · intro _ v hv
      cases hv
    · intro _
      exact ⟨none, .none⟩
  | some v =>
    constructor
    · rintro ⟨_, hrel⟩ x hx
      cases hx
      cases hrel with
      | some ha => exact ⟨_, ha⟩
    · intro hread
      obtain ⟨a, ha⟩ := hread v rfl
      exact ⟨some a, .some ha⟩

end Reading

/-! ### Values, types and models -/

theorem EntityValue.exists_structuredOfJson_iff (v : Json) :
    (∃ value, structuredOfJson v = .ok value) ↔ v.IsStructuredValue := by
  cases v with
  | object members =>
    rw [structuredOfJson, Reading.exists_map_iff, Reading.exists_both_iff,
      Reading.exists_required_iff fun _ => Reading.exists_text_iff,
      Reading.exists_possible_iff (Reading.exists_list_iff fun _ => Reading.exists_text_iff)]
    exact (and_iff_right trivial).symm
  | _ => simp [structuredOfJson, Reading.refuse, Json.IsStructuredValue, Json.IsObject]

/-- What is no text is read as a value with synonyms, or not at all. -/
theorem EntityValue.ofJson_of_not_text {v : Json} (h : ¬ v.IsText) :
    ofJson v =
      match (structuredOfJson v).under .structured with
      | .ok value => .ok value
      | .error problems => .error (⟨[.bare], .notText⟩ :: problems) := by
  cases v with
  | text t => exact absurd trivial h
  | _ => rfl

theorem EntityValue.ofJson_eq_ok_of_not_text {v : Json} {value : EntityValue} (h : ¬ v.IsText) :
    ofJson v = .ok value ↔ structuredOfJson v = .ok value := by
  have hunder : (structuredOfJson v).under .structured = .ok value ↔ structuredOfJson v = .ok value :=
    Reading.under_eq_ok
  rw [ofJson_of_not_text h, ← hunder]
  cases (structuredOfJson v).under .structured <;> simp

theorem EntityValue.exists_ofJson_iff (v : Json) : (∃ value, ofJson v = .ok value) ↔ v.IsValue := by
  by_cases htext : v.IsText
  · cases v with
    | text t => exact ⟨fun _ => .inl trivial, fun _ => ⟨_, rfl⟩⟩
    | _ => exact htext.elim
  · simp only [ofJson_eq_ok_of_not_text htext, exists_structuredOfJson_iff, Json.IsValue, htext, false_or]

theorem EntityType.exists_ofJson_iff (v : Json) : (∃ type, ofJson v = .ok type) ↔ v.IsEntityType := by
  cases v with
  | object members =>
    rw [ofJson, Reading.exists_map_iff,
      Reading.exists_possible_iff (Reading.exists_list_iff EntityValue.exists_ofJson_iff)]
    exact (and_iff_right trivial).symm
  | _ => simp [ofJson, Reading.refuse, Json.IsEntityType, Json.IsObject]

theorem Intent.exists_ofJson_iff (v : Json) : (∃ intent, ofJson v = .ok intent) ↔ v.IsIntent := by
  cases v with
  | object members =>
    rw [ofJson, Reading.exists_map_iff,
      Reading.exists_possible_iff (Reading.exists_list_iff fun _ => Reading.exists_text_iff)]
    exact (and_iff_right trivial).symm
  | _ => simp [ofJson, Reading.refuse, Json.IsIntent, Json.IsObject]

/-- The member for the entity types is the one under the name that counts. -/
theorem LanguageModel.get?_entityTypesName (members : List (Text × Json)) :
    Entries.get? (entityTypesName members) members = (Json.object members).typesMember? := by
  have htypes : (Json.object members).typesMember? =
      (Entries.get? ("entityTypes" : Text) members).or (Entries.get? ("entity_types" : Text) members) := rfl
  rw [htypes]
  unfold entityTypesName
  cases h : Entries.get? ("entityTypes" : Text) members with
  | some v => rw [h, Option.some_or]
  | none => rw [Option.none_or]

/-- **A document is read exactly when it is in the grammar.** -/
theorem LanguageModel.exists_ofJson_iff (v : Json) : (∃ m, ofJson v = .ok m) ↔ v.IsModel := by
  cases v with
  | object members =>
    rw [ofJson, Reading.exists_map_iff, Reading.exists_both_iff,
      Reading.exists_required_iff (Reading.exists_table_iff Intent.exists_ofJson_iff),
      Reading.exists_possible_iff (Reading.exists_table_iff EntityType.exists_ofJson_iff),
      get?_entityTypesName]
    exact (and_iff_right trivial).symm
  | _ => simp [ofJson, Reading.refuse, Json.IsModel, Json.IsObject]

/-! ## What is read -/

namespace Json

/-- The phrases that a document lists, each behind the name of its intent. -/
def listedPhrases (v : Json) : List (Text × Json) :=
  (v.field "intents").members.flatMap fun (name, intent) =>
    (intent.field "phrases").items.map fun x => (name, x)

/-- The values that a document lists, each behind the name of its entity type. -/
def listedValues (v : Json) : List (Text × Json) :=
  (v.typesMember?.getD .null).members.flatMap fun (name, type) =>
    (type.field "values").items.map fun x => (name, x)

end Json

/-- How a value is written: a bare one as its text, and one with synonyms as an object with its text and its
synonyms. Where there is no list of synonyms the object has none either. -/
def EntityValue.WrittenAs (x : Json) : EntityValue → Prop
  | .bare t => x = .text t
  | .structured t synonyms =>
    x.IsObject ∧ x.member? "value" = some (.text t) ∧
      Json.unlessNull (x.member? "synonyms") = synonyms.map fun ss => .array (ss.map .text)

theorem Reading.text_list_eq_ok {v : Json} {ts : List Text} :
    list text v = .ok ts ↔ v = .array (ts.map .text) := by
  simp only [list_eq_ok, text_eq_ok]
  constructor
  · rintro ⟨vs, rfl, h⟩
    rw [← List.forall₂_map_right_iff, List.forall₂_eq_eq_eq] at h
    rw [h]
  · rintro rfl
    refine ⟨_, rfl, ?_⟩
    rw [List.forall₂_map_left_iff, List.forall₂_same]
    exact fun _ _ => rfl

/-- A list of texts that may be absent or null is what stands there. -/
theorem Reading.possible_texts_eq_ok {name : Text} {members : List (Text × Json)}
    {found : Option (List Text)} :
    possible name (list text) members = .ok found ↔
      Json.unlessNull (Entries.get? name members) = found.map fun ts => .array (ts.map .text) := by
  rw [possible_eq_ok]
  cases Json.unlessNull (Entries.get? name members) with
  | none => cases found <;> simp
  | some v => cases found <;> simp [text_list_eq_ok]

namespace EntityValue

theorem structuredOfJson_eq_ok {x : Json} {value : EntityValue} :
    structuredOfJson x = .ok value ↔ value.WrittenAs x ∧ x.IsObject := by
  cases x with
  | object members =>
    simp only [structuredOfJson, Reading.map_eq_ok, Reading.both_eq_ok, Reading.required_eq_ok,
      Reading.text_eq_ok, Reading.possible_texts_eq_ok, Prod.exists]
    constructor
    · rintro ⟨t, synonyms, ⟨⟨_, ht, rfl⟩, hsynonyms⟩, rfl⟩
      exact ⟨⟨trivial, ht, hsynonyms⟩, trivial⟩
    · rintro ⟨hvalue, -⟩
      cases value with
      | bare t => cases hvalue
      | structured t synonyms =>
        obtain ⟨-, ht, hsynonyms⟩ := hvalue
        exact ⟨t, synonyms, ⟨⟨_, ht, rfl⟩, hsynonyms⟩, rfl⟩
  | _ => simp [structuredOfJson, Reading.refuse, Json.IsObject]

/-- **A value is read exactly as it is written.** -/
theorem ofJson_eq_ok {x : Json} {value : EntityValue} : ofJson x = .ok value ↔ value.WrittenAs x := by
  by_cases htext : x.IsText
  · cases x with
    | text t => cases value <;> simp [ofJson, WrittenAs, Json.IsObject, eq_comm]
    | _ => exact htext.elim
  · rw [ofJson_eq_ok_of_not_text htext, structuredOfJson_eq_ok]
    refine ⟨fun h => h.1, fun h => ⟨h, ?_⟩⟩
    cases value with
    | bare t =>
      rw [WrittenAs] at h
      rw [h] at htext
      exact absurd trivial htext
    | structured t synonyms => exact h.1

end EntityValue

theorem Intent.ofJson_eq_ok {x : Json} {intent : Intent} :
    ofJson x = .ok intent ↔
      x.IsObject ∧ Json.unlessNull (x.member? "phrases") =
        intent.phrases.map fun ps => .array (ps.map .text) := by
  cases x with
  | object members =>
    rw [ofJson, Reading.map_eq_ok]
    simp only [Reading.possible_texts_eq_ok]
    constructor
    · rintro ⟨phrases, h, rfl⟩
      exact ⟨trivial, h⟩
    · rintro ⟨-, h⟩
      exact ⟨intent.phrases, h, rfl⟩
  | _ => simp [ofJson, Reading.refuse, Json.IsObject]

theorem EntityType.ofJson_eq_ok {x : Json} {type : EntityType} :
    ofJson x = .ok type ↔
      x.IsObject ∧ Option.Rel
        (fun list values => ∃ xs, list = .array xs ∧ List.Forall₂ (fun x value => value.WrittenAs x) xs values)
        (Json.unlessNull (x.member? "values")) type.values := by
  cases x with
  | object members =>
    rw [ofJson, Reading.map_eq_ok]
    simp only [Reading.possible_eq_ok, Reading.list_eq_ok, EntityValue.ofJson_eq_ok]
    constructor
    · rintro ⟨values, h, rfl⟩
      exact ⟨trivial, h⟩
    · rintro ⟨-, h⟩
      exact ⟨type.values, h, rfl⟩
  | _ => simp [ofJson, Reading.refuse, Json.IsObject]

theorem LanguageModel.ofJson_eq_ok {v : Json} {m : LanguageModel} :
    ofJson v = .ok m ↔
      (∃ members, v.member? "intents" = some (.object members) ∧
        List.Forall₂ (fun x e => x.1 = e.1 ∧ Intent.ofJson x.2 = .ok e.2) members m.intents) ∧
      Option.Rel
        (fun table types => ∃ members, table = .object members ∧
          List.Forall₂ (fun x e => x.1 = e.1 ∧ EntityType.ofJson x.2 = .ok e.2) members types)
        (Json.unlessNull v.typesMember?) m.entityTypes := by
  cases v with
  | object members =>
    simp only [ofJson, Reading.map_eq_ok, Reading.both_eq_ok, Reading.required_eq_ok, Reading.table_eq_ok,
      Reading.possible_eq_ok, get?_entityTypesName, Prod.exists]
    constructor
    · rintro ⟨intents, types, ⟨⟨_, hget, table, rfl, hintents⟩, htypes⟩, rfl⟩
      exact ⟨⟨table, hget, hintents⟩, htypes⟩
    · rintro ⟨⟨table, hget, hintents⟩, htypes⟩
      exact ⟨m.intents, m.entityTypes, ⟨⟨_, hget, table, rfl, hintents⟩, htypes⟩, rfl⟩
  | _ => simp [ofJson, Reading.refuse, Json.member?]

namespace LanguageModel

variable {v : Json} {m : LanguageModel}

/-- **The phrases of a model are the texts that its document lists**, in the same order. -/
theorem listedPhrases_of_ofJson (h : ofJson v = .ok m) :
    v.listedPhrases = m.phrases.map fun p => (p.intent, .text p.text) := by
  obtain ⟨⟨members, hget, hintents⟩, -⟩ := ofJson_eq_ok.mp h
  have hfield : v.field "intents" = .object members := by
    unfold Json.field
    rw [hget, Option.getD_some]
  -- intent by intent, what is listed under the name is what was read
  have hintent : ∀ (x : Text × Json) (e : Text × Intent), (x.1 = e.1 ∧ Intent.ofJson x.2 = .ok e.2) →
      List.Forall₂ (fun found (p : Phrase) => found = (p.intent, Json.text p.text))
        ((x.2.field "phrases").items.map fun y => (x.1, y))
        ((e.2.phrases.getD []).map (Phrase.mk e.1)) := by
    rintro ⟨name, x⟩ ⟨name', intent⟩ ⟨rfl, hread⟩
    obtain ⟨-, hphrases⟩ := Intent.ofJson_eq_ok.mp hread
    have hitems : (x.field "phrases").items = (intent.phrases.getD []).map .text := by
      rw [Json.field, ← Json.getD_unlessNull, hphrases]
      cases intent.phrases <;> rfl
    rw [hitems, List.map_map, List.forall₂_map_left_iff, List.forall₂_map_right_iff, List.forall₂_same]
    exact fun _ _ => rfl
  have hall : List.Forall₂ (fun found (p : Phrase) => found = (p.intent, Json.text p.text))
      v.listedPhrases m.phrases := by
    unfold Json.listedPhrases phrases
    rw [hfield]
    exact List.rel_flatMap hintents hintent
  rw [← List.forall₂_map_right_iff, List.forall₂_eq_eq_eq] at hall
  exact hall

/-- **The values of a model are the values that its document lists**, in the same order and each as it is
written. -/
theorem listedValues_of_ofJson (h : ofJson v = .ok m) :
    List.Forall₂ (fun found value => found.1 = value.1 ∧ value.2.WrittenAs found.2) v.listedValues
      m.values := by
  obtain ⟨-, htypes⟩ := ofJson_eq_ok.mp h
  have htype : ∀ (x : Text × Json) (e : Text × EntityType),
      (x.1 = e.1 ∧ EntityType.ofJson x.2 = .ok e.2) →
      List.Forall₂ (fun found value => found.1 = value.1 ∧ value.2.WrittenAs found.2)
        ((x.2.field "values").items.map fun y => (x.1, y))
        ((e.2.values.getD []).map fun value => (e.1, value)) := by
    rintro ⟨name, x⟩ ⟨name', type⟩ ⟨rfl, hread⟩
    obtain ⟨-, hvalues⟩ := EntityType.ofJson_eq_ok.mp hread
    rw [List.forall₂_map_left_iff, List.forall₂_map_right_iff, Json.field, ← Json.getD_unlessNull]
    simp only [true_and]
    generalize Json.unlessNull (x.member? "values") = found, type.values = values at hvalues ⊢
    cases hvalues with
    | none => exact .nil
    | some hlist =>
      obtain ⟨xs, rfl, hxs⟩ := hlist
      exact hxs
  unfold Json.listedValues values
  rw [← Json.getD_unlessNull]
  generalize Json.unlessNull v.typesMember? = found, m.entityTypes = types at htypes ⊢
  cases htypes with
  | none => exact .nil
  | some htable =>
    obtain ⟨members, rfl, hmembers⟩ := htable
    exact List.rel_flatMap hmembers htype

end LanguageModel

/-! ## Documents of models -/

theorem EntityValue.writtenAs_toJson (value : EntityValue) : value.WrittenAs value.toJson := by
  cases value with
  | bare t => rfl
  | structured t synonyms =>
    refine ⟨trivial, rfl, ?_⟩
    cases synonyms <;> rfl

theorem EntityType.ofJson_toJson (type : EntityType) : ofJson type.toJson = .ok type := by
  refine ofJson_eq_ok.mpr ⟨trivial, ?_⟩
  obtain ⟨values⟩ := type
  cases values with
  | none => exact .none
  | some values =>
    refine .some ⟨_, rfl, ?_⟩
    rw [List.forall₂_map_left_iff, List.forall₂_same]
    exact fun value _ => value.writtenAs_toJson

theorem Intent.ofJson_toJson (intent : Intent) : ofJson intent.toJson = .ok intent := by
  refine ofJson_eq_ok.mpr ⟨trivial, ?_⟩
  obtain ⟨phrases⟩ := intent
  cases phrases <;> rfl

namespace LanguageModel

/-- The spellings of the member for the entity types. -/
def typesSpellings : List Text := ["entityTypes", "entity_types"]

/-- The document of a model, with a spelling of the member for its entity types. -/
def documentWith (spelling : Text) (m : LanguageModel) : Json :=
  .object [("intents", .object (m.intents.map fun (name, intent) => (name, intent.toJson))),
    (spelling,
      (m.entityTypes.map fun types =>
        Json.object (types.map fun (name, type) => (name, type.toJson))).getD .null)]

theorem documentWith_entityTypes (m : LanguageModel) : m.documentWith "entityTypes" = m.toJson := rfl

/-- The document of a model is read as that model. -/
theorem ofJson_documentWith {spelling : Text} (h : spelling ∈ typesSpellings) (m : LanguageModel) :
    ofJson (m.documentWith spelling) = .ok m := by
  obtain ⟨intents, types⟩ := m
  have htypes : (documentWith spelling ⟨intents, types⟩).typesMember? =
      some ((types.map fun types =>
        Json.object (types.map fun (name, type) => (name, type.toJson))).getD .null) := by
    rcases List.mem_pair.mp h with rfl | rfl <;> rfl
  refine ofJson_eq_ok.mpr ⟨⟨_, rfl, ?_⟩, ?_⟩
  · rw [List.forall₂_map_left_iff, List.forall₂_same]
    exact fun e _ => ⟨rfl, e.2.ofJson_toJson⟩
  · rw [htypes]
    cases types with
    | none => exact .none
    | some types =>
      refine .some ⟨_, rfl, ?_⟩
      rw [List.forall₂_map_left_iff, List.forall₂_same]
      exact fun e _ => ⟨rfl, e.2.ofJson_toJson⟩

/-! ## Reading a document for a locale -/

theorem readDocument_eq_ok {locale : Text} {v : Json} {m : LanguageModel} :
    Source.readDocument locale v = .ok m ↔ ofJson v = .ok m := by
  unfold Source.readDocument
  cases ofJson v <;> simp [Except.mapError]

/-- **What is read of a document for a locale.** A document is read exactly when it is in the grammar, and else
the failure is one of the locale and tells the problems. The phrases and values of a model are what its document
lists. And every model is what is read of its own document. -/
theorem readDocument_exact (locale : Text) (v : Json) :
    ((∃ m, Source.readDocument locale v = .ok m) ↔ v.IsModel) ∧
    (¬ v.IsModel →
      ∃ problems, Source.readDocument locale v = .error (.lint ⟨locale, .unfit problems⟩)) ∧
    (∀ m, Source.readDocument locale v = .ok m →
      v.listedPhrases = m.phrases.map (fun p => (p.intent, .text p.text)) ∧
      List.Forall₂ (fun found value => found.1 = value.1 ∧ value.2.WrittenAs found.2) v.listedValues
        m.values) ∧
    ∀ m : LanguageModel, ∀ spelling ∈ typesSpellings,
      Source.readDocument locale (m.documentWith spelling) = .ok m := by
  have haccepted : (∃ m, Source.readDocument locale v = .ok m) ↔ v.IsModel := by
    simp only [readDocument_eq_ok]
    exact exists_ofJson_iff v
  refine ⟨haccepted, fun hnot => ?_, fun m hm => ?_, fun m spelling hspelling => ?_⟩
  · cases hread : ofJson v with
    | ok m => exact absurd ((exists_ofJson_iff v).mp ⟨m, hread⟩) hnot
    | error problems =>
      refine ⟨problems, ?_⟩
      unfold Source.readDocument
      rw [hread]
      rfl
  · have hread := readDocument_eq_ok.mp hm
    exact ⟨listedPhrases_of_ofJson hread, listedValues_of_ofJson hread⟩
  · exact readDocument_eq_ok.mpr (ofJson_documentWith hspelling m)

end LanguageModel
end IntentLint

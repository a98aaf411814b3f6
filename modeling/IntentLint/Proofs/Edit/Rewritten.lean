import IntentLint.Proofs.Linter.Tally
import IntentLint.Proofs.Linter.Verdict
import IntentLint.Proofs.Model.Agreement
import IntentLint.Proofs.Model.Grammar
import Mathlib.Logic.Relation

/-!
# `Proofs.Edit.Rewritten` — other ways to write the same model

One model can be written in many ways. An object may have members that nobody reads; a list may be empty, null or
not there at all; a value without synonyms may be a text or an object; the member for the entity types has two
spellings. Each such rewrite, at any place that is read, is a step of `ModelRewrite`.

A step changes neither the phrases nor the slots of the model that is read, and a document that is not read is
not read after it either. So all ways of writing a model lint alike (`lint_rewritten`), with the same report and
the same deliveries.
-/

namespace IntentLint

/-! ## Rewrites of documents -/

/-- A member is put into an object somewhere. -/
inductive Inserted (name : Text) (v : Json) : List (Text × Json) → List (Text × Json) → Prop
  | mk (before after : List (Text × Json)) : Inserted name v (before ++ after) (before ++ (name, v) :: after)

/-- What stands in a member of an object is rewritten. -/
inductive Within (name : Text) (R : Json → Json → Prop) : List (Text × Json) → List (Text × Json) → Prop
  | mk (before after : List (Text × Json)) {v v' : Json} (h : R v v') :
      Within name R (before ++ (name, v) :: after) (before ++ (name, v') :: after)

/-- One member of a table is rewritten. -/
inductive InTable (R : Json → Json → Prop) : Json → Json → Prop
  | mk {name : Text} {ms ms' : List (Text × Json)} (h : Within name R ms ms') :
      InTable R (.object ms) (.object ms')

/-- One item of a list is rewritten. -/
inductive InList (R : Json → Json → Prop) : Json → Json → Prop
  | mk (before after : List Json) {v v' : Json} (h : R v v') :
      InList R (.array (before ++ v :: after)) (.array (before ++ v' :: after))

/-- Instead of nothing there is something empty. -/
inductive Emptied (empty : Json) : Json → Json → Prop
  | mk : Emptied empty .null empty

/-- An object is rewritten in which the members of some names are read, one of them a list that may be absent. -/
inductive RecordRewrite (known : List Text) (name : Text) : List (Text × Json) → List (Text × Json) → Prop
  | unread {other : Text} {v : Json} {ms ms' : List (Text × Json)} (hother : other ∉ known)
      (h : Inserted other v ms ms') : RecordRewrite known name ms ms'
  | null {ms ms' : List (Text × Json)} (habsent : name ∉ Entries.keys ms) (h : Inserted name .null ms ms') :
      RecordRewrite known name ms ms'
  | empty {ms ms' : List (Text × Json)} (h : Within name (Emptied (.array [])) ms ms') :
      RecordRewrite known name ms ms'

/-- A value is rewritten: a text as an object that holds it, or such an object. -/
inductive ValueRewrite : Json → Json → Prop
  | bare (t : Text) : ValueRewrite (.text t) (.object [("value", .text t)])
  | record {ms ms' : List (Text × Json)} (h : RecordRewrite ["value", "synonyms"] "synonyms" ms ms') :
      ValueRewrite (.object ms) (.object ms')

/-- An entity type is rewritten, or one of its values. -/
inductive TypeRewrite : Json → Json → Prop
  | record {ms ms' : List (Text × Json)} (h : RecordRewrite ["values"] "values" ms ms') :
      TypeRewrite (.object ms) (.object ms')
  | value {ms ms' : List (Text × Json)} (h : Within "values" (InList ValueRewrite) ms ms') :
      TypeRewrite (.object ms) (.object ms')

/-- An intent is rewritten. -/
inductive IntentRewrite : Json → Json → Prop
  | record {ms ms' : List (Text × Json)} (h : RecordRewrite ["phrases"] "phrases" ms ms') :
      IntentRewrite (.object ms) (.object ms')

/-- The members that are read of the document of a model. -/
def LanguageModel.knownNames : List Text := "intents" :: typesSpellings

open LanguageModel (knownNames typesSpellings) in
/-- The document of a model is rewritten, in itself or in one of its parts. Where only one spelling of the member
for the entity types is there, it may become the other one; where neither is, either may be put in with null; and
where the first one is, nobody reads the second. -/
inductive ModelRewrite : Json → Json → Prop
  | unread {other : Text} {v : Json} {ms ms' : List (Text × Json)} (hother : other ∉ knownNames)
      (h : Inserted other v ms ms') : ModelRewrite (.object ms) (.object ms')
  | intent {ms ms' : List (Text × Json)} (h : Within "intents" (InTable IntentRewrite) ms ms') :
      ModelRewrite (.object ms) (.object ms')
  | type {spelling : Text} {ms ms' : List (Text × Json)} (hspelling : spelling ∈ typesSpellings)
      (h : Within spelling (InTable TypeRewrite) ms ms') : ModelRewrite (.object ms) (.object ms')
  | null {spelling : Text} {ms ms' : List (Text × Json)} (hspelling : spelling ∈ typesSpellings)
      (habsent : ∀ s ∈ typesSpellings, s ∉ Entries.keys ms) (h : Inserted spelling .null ms ms') :
      ModelRewrite (.object ms) (.object ms')
  | empty {spelling : Text} {ms ms' : List (Text × Json)} (hspelling : spelling ∈ typesSpellings)
      (h : Within spelling (Emptied (.object [])) ms ms') : ModelRewrite (.object ms) (.object ms')
  | respelled {spelling spelling' : Text} {v : Json} {before after : List (Text × Json)}
      (hspelling : spelling ∈ typesSpellings) (hspelling' : spelling' ∈ typesSpellings)
      (habsent : ∀ s ∈ typesSpellings, s ∉ Entries.keys (before ++ after)) :
      ModelRewrite (.object (before ++ (spelling, v) :: after)) (.object (before ++ (spelling', v) :: after))
  | beside {v : Json} {ms ms' : List (Text × Json)} (hfirst : ("entityTypes" : Text) ∈ Entries.keys ms)
      (h : Inserted "entity_types" v ms ms') : ModelRewrite (.object ms) (.object ms')

/-! ## What is found under a name -/

section Members

variable {R : Json → Json → Prop} {name key : Text} {v : Json} {ms ms' : List (Text × Json)}

theorem Inserted.get?_ne (h : Inserted name v ms ms') (hne : name ≠ key) :
    Entries.get? key ms = Entries.get? key ms' := by
  cases h with
  | mk before after => exact (Entries.get?_append_cons_ne hne before after v).symm

theorem Within.get?_ne (h : Within name R ms ms') (hne : name ≠ key) :
    Entries.get? key ms = Entries.get? key ms' := by
  cases h with
  | mk before after _ => rw [Entries.get?_append_cons_ne hne, Entries.get?_append_cons_ne hne]

theorem rel_refl (found : Option Json) : Option.Rel (Relation.ReflGen R) found found := by
  cases found with
  | none => exact .none
  | some v => exact .some .refl

/-- Under every name there stands the same as before, or what it was rewritten to. -/
theorem Within.rel (h : Within name R ms ms') (key : Text) :
    Option.Rel (Relation.ReflGen R) (Entries.get? key ms) (Entries.get? key ms') := by
  cases h with
  | mk before after hv =>
    rw [Entries.get?_append, Entries.get?_append]
    cases Entries.get? key before with
    | some found => exact .some .refl
    | none =>
      rw [Option.none_or, Option.none_or]
      by_cases hname : name = key
      · subst hname
        rw [Entries.get?_cons_self, Entries.get?_cons_self]
        exact .some (.single hv)
      · rw [Entries.get?_cons_ne hname, Entries.get?_cons_ne hname]
        exact rel_refl _

/-- What is seen alike before and after a rewrite is seen alike wherever there was one or none. -/
theorem eq_of_rel {γ : Type} {see : Option Json → γ} (hsee : ∀ v v', R v v' → see (some v) = see (some v'))
    {found found' : Option Json} (h : Option.Rel (Relation.ReflGen R) found found') :
    see found = see found' := by
  cases h with
  | none => rfl
  | some hv =>
    cases hv with
    | refl => rfl
    | single hv => exact hsee _ _ hv

/-- The first place that something stands at is rewritten when either place is. -/
theorem rel_or {first first' second second' : Option Json}
    (hfirst : Option.Rel (Relation.ReflGen R) first first')
    (hsecond : Option.Rel (Relation.ReflGen R) second second') :
    Option.Rel (Relation.ReflGen R) (first.or second) (first'.or second') := by
  cases hfirst with
  | none => exact hsecond
  | some hv => exact .some hv

/-- One place of a list is rewritten, and the others stay. -/
theorem forall₂_replaced {β : Type} {S : β → β → Prop} (hrefl : ∀ b, S b b) {b b' : β} (h : S b b')
    (before after : List β) : List.Forall₂ S (before ++ b :: after) (before ++ b' :: after) := by
  have hsame : ∀ bs : List β, List.Forall₂ S bs bs := fun bs => List.forall₂_same.mpr fun b _ => hrefl b
  exact List.rel_append (hsame before) (.cons h (hsame after))

end Members

/-! ## A rewrite is not seen -/

section Records

variable {α : Type} {known : List Text} {name : Text} {ms ms' : List (Text × Json)}

theorem RecordRewrite.get?_eq (h : RecordRewrite known name ms ms') {key : Text} (hkey : key ∈ known)
    (hne : name ≠ key) : Entries.get? key ms = Entries.get? key ms' := by
  cases h with
  | unread hother hput =>
    refine hput.get?_ne ?_
    rintro rfl
    exact hother hkey
  | null _ hput => exact hput.get?_ne hne
  | empty hwithin => exact hwithin.get?_ne hne

/-- The list of a rewritten object lists the same. -/
theorem RecordRewrite.listed_eq (h : RecordRewrite known name ms ms') (hname : name ∈ known)
    (item : Json → Reading α) :
    Reading.listed (Reading.list item) (Entries.get? name ms) =
      Reading.listed (Reading.list item) (Entries.get? name ms') := by
  cases h with
  | unread hother hput =>
    rw [hput.get?_ne]
    rintro rfl
    exact hother hname
  | null habsent hput =>
    cases hput with
    | mk before after =>
      have hbefore : name ∉ Entries.keys before := fun hmem =>
        habsent (by rw [Entries.keys, List.map_append]; exact List.mem_append_left _ hmem)
      rw [Entries.get?_eq_none_iff.mpr habsent, Entries.get?_append_cons_self hbefore,
        Reading.listed_none, Reading.listed_null]
  | empty hwithin =>
    have hsame : ∀ v v', Emptied (.array []) v v' → Reading.listed (Reading.list item) (some v) =
        Reading.listed (Reading.list item) (some v') := by
      rintro _ _ ⟨⟩
      rfl
    exact eq_of_rel hsame (hwithin.rel name)

end Records

/-- The slots of a value stay. -/
theorem ValueRewrite.agree {v v' : Json} (h : ValueRewrite v v') (entityType : Text) :
    Reading.Agree (EntityValue.slots entityType) (EntityValue.ofJson v) (EntityValue.ofJson v') := by
  cases h with
  | bare t => rfl
  | @record ms ms' h =>
    -- an object is no text, so it is read as a value with synonyms or not at all
    have hread : ∀ members, (EntityValue.ofJson (.object members)).toOption =
        (EntityValue.structuredOfJson (.object members)).toOption := by
      intro members
      rw [EntityValue.ofJson_of_not_text id]
      cases EntityValue.structuredOfJson (.object members) <;> rfl
    have htext : Reading.Agree (fun t => t) (Reading.required "value" Reading.text ms)
        (Reading.required "value" Reading.text ms') := by
      unfold Reading.Agree
      rw [Reading.toOption_required, Reading.toOption_required, h.get?_eq (by decide) (by decide)]
    have hsynonyms : Reading.Agree (fun found => found.getD [])
        (Reading.possible "synonyms" (Reading.list Reading.text) ms)
        (Reading.possible "synonyms" (Reading.list Reading.text) ms') :=
      Reading.agree_possible (congrArg (Option.map id) (h.listed_eq (by decide) Reading.text))
    have hboth := htext.both hsynonyms fun t synonyms =>
      Slot.mk .value entityType entityType t :: synonyms.map (Slot.mk .synonym entityType t)
    unfold Reading.Agree
    rw [hread, hread]
    exact hboth.map

/-- The values of the items of a list, and the phrases or the values under a name, are read alike. -/
theorem agree_inList {R : Json → Json → Prop} {α β : Type} {read : Json → Reading α} {see : α → List β}
    (hread : ∀ v v', R v v' → Reading.Agree see (read v) (read v')) {v v' : Json} (h : InList R v v') :
    Reading.Agree (fun xs => xs.flatMap see) (Reading.list read v) (Reading.list read v') := by
  cases h with
  | @mk before after v v' hv =>
    have hitems : List.Forall₂ (fun v v' => Reading.Agree see (read v) (read v')) (before ++ v :: after)
        (before ++ v' :: after) := by
      apply forall₂_replaced
      · exact fun _ => rfl
      · exact hread v v' hv
    exact Reading.agree_list hitems

theorem agree_inTable {R : Json → Json → Prop} {α β : Type} {read : Json → Reading α}
    {see : Text → α → List β} (hread : ∀ name v v', R v v' → Reading.Agree (see name) (read v) (read v'))
    {v v' : Json} (h : InTable R v v') :
    Reading.Agree (fun entries => entries.flatMap fun e => see e.1 e.2) (Reading.table read v)
      (Reading.table read v') := by
  obtain @⟨name, ms, ms', hwithin⟩ := h
  cases hwithin with
  | @mk before after v v' hv =>
    have hmembers : List.Forall₂ (fun m m' => m.1 = m'.1 ∧ Reading.Agree (see m.1) (read m.2) (read m'.2))
        (before ++ (name, v) :: after) (before ++ (name, v') :: after) := by
      apply forall₂_replaced
      · exact fun _ => ⟨rfl, rfl⟩
      · exact ⟨rfl, hread name v v' hv⟩
    exact Reading.agree_table hmembers

/-- The slots that are seen of a list of values that may be absent. -/
def EntityType.seenSlots (name : Text) (found : Option Json) : Option (List Slot) :=
  (Reading.listed (Reading.list EntityValue.ofJson) found).map fun values => values.flatMap (·.slots name)

/-- The slots of an entity type stay. -/
theorem TypeRewrite.agree {v v' : Json} (h : TypeRewrite v v') (name : Text) :
    Reading.Agree (fun type => (type.values.getD []).flatMap (·.slots name)) (EntityType.ofJson v)
      (EntityType.ofJson v') := by
  have hseen : ∀ ms ms' : List (Text × Json),
      EntityType.seenSlots name (Entries.get? ("values" : Text) ms) =
        EntityType.seenSlots name (Entries.get? ("values" : Text) ms') →
      Reading.Agree (fun type => (type.values.getD []).flatMap (·.slots name))
        (EntityType.ofJson (.object ms)) (EntityType.ofJson (.object ms')) := by
    intro ms ms' hslots
    rw [EntityType.ofJson, EntityType.ofJson]
    apply Reading.Agree.map
    exact Reading.agree_possible hslots
  cases h with
  | record h =>
    apply hseen
    rw [EntityType.seenSlots, EntityType.seenSlots, h.listed_eq (by decide) EntityValue.ofJson]
  | value h =>
    have hvalue : ∀ x x', ValueRewrite x x' →
        Reading.Agree (·.slots name) (EntityValue.ofJson x) (EntityValue.ofJson x') :=
      fun x x' hx => hx.agree name
    have hsame : ∀ x x', InList ValueRewrite x x' →
        EntityType.seenSlots name (some x) = EntityType.seenSlots name (some x') := by
      intro x x' hx
      have hlist := agree_inList hvalue hx
      cases hx with
      | mk before after _ => exact hlist
    apply hseen
    exact eq_of_rel hsame (h.rel _)

/-- The phrases of an intent stay. -/
theorem IntentRewrite.agree {v v' : Json} (h : IntentRewrite v v') (name : Text) :
    Reading.Agree (fun intent => (intent.phrases.getD []).map (LanguageModel.Phrase.mk name))
      (Intent.ofJson v) (Intent.ofJson v') := by
  cases h with
  | record h =>
    rw [Intent.ofJson, Intent.ofJson]
    apply Reading.Agree.map
    apply Reading.agree_possible
    rw [h.listed_eq (by decide) Reading.text]

/-! ## Models -/

namespace LanguageModel

/-- What the checks see of a model. -/
def texts (m : LanguageModel) : List Phrase × List Slot := (m.phrases, m.slots)

/-- The phrases that are seen of a table of intents. -/
def seenPhrases (found : Option Json) : Option (List Phrase) :=
  found.bind fun v => (Reading.table Intent.ofJson v).toOption.map fun intents =>
    intents.flatMap fun e => (e.2.phrases.getD []).map (Phrase.mk e.1)

/-- The slots that are seen of a table of entity types that may be absent. -/
def seenSlots (found : Option Json) : Option (List Slot) :=
  (Reading.listed (Reading.table EntityType.ofJson) found).map fun types =>
    types.flatMap fun e => (e.2.values.getD []).flatMap (·.slots e.1)

/-- Objects whose members look the same are models with the same texts. -/
theorem agree_of_seen {ms ms' : List (Text × Json)}
    (hphrases : seenPhrases (Entries.get? ("intents" : Text) ms) =
      seenPhrases (Entries.get? ("intents" : Text) ms'))
    (hslots : seenSlots (Json.object ms).typesMember? = seenSlots (Json.object ms').typesMember?) :
    Reading.Agree texts (ofJson (.object ms)) (ofJson (.object ms')) := by
  have hintents : Reading.Agree
      (fun intents => intents.flatMap fun e => (e.2.phrases.getD []).map (Phrase.mk e.1))
      (Reading.required "intents" (Reading.table Intent.ofJson) ms)
      (Reading.required "intents" (Reading.table Intent.ofJson) ms') := by
    unfold Reading.Agree
    rw [Reading.toOption_required, Reading.toOption_required, Option.map_bind, Option.map_bind]
    exact hphrases
  rw [← get?_entityTypesName, ← get?_entityTypesName] at hslots
  have hboth := hintents.both (Reading.agree_possible hslots) Prod.mk
  have htexts : (fun p : List (Text × Intent) × Option (List (Text × EntityType)) =>
      texts ⟨p.1, p.2⟩) = fun p =>
        (p.1.flatMap fun e => (e.2.phrases.getD []).map (Phrase.mk e.1),
          (p.2.getD []).flatMap fun e => (e.2.values.getD []).flatMap (·.slots e.1)) := by
    funext p
    rw [texts, slots_eq_flatMap, phrases_eq_flatMap]
  rw [ofJson, ofJson]
  apply Reading.Agree.map
  rw [htexts]
  exact hboth

/-! ### The member for the entity types -/

/-- Objects with the same under both spellings have the same member for the entity types. -/
theorem typesMember?_congr {ms ms' : List (Text × Json)}
    (h : ∀ s ∈ typesSpellings, Entries.get? s ms = Entries.get? s ms') :
    (Json.object ms).typesMember? = (Json.object ms').typesMember? := by
  have hfirst := h "entityTypes" (by decide)
  have hsecond := h "entity_types" (by decide)
  show (Entries.get? ("entityTypes" : Text) ms).or (Entries.get? ("entity_types" : Text) ms) =
    (Entries.get? ("entityTypes" : Text) ms').or (Entries.get? ("entity_types" : Text) ms')
  rw [hfirst, hsecond]

theorem typesMember?_of_absent {ms : List (Text × Json)}
    (h : ∀ s ∈ typesSpellings, s ∉ Entries.keys ms) : (Json.object ms).typesMember? = none := by
  have hfirst := Entries.get?_eq_none_iff.mpr (h "entityTypes" (by decide))
  have hsecond := Entries.get?_eq_none_iff.mpr (h "entity_types" (by decide))
  show (Entries.get? ("entityTypes" : Text) ms).or (Entries.get? ("entity_types" : Text) ms) = none
  rw [hfirst, hsecond, Option.none_or]

/-- Where the first spelling is there, it counts. -/
theorem typesMember?_of_first {ms : List (Text × Json)} {v : Json}
    (h : Entries.get? ("entityTypes" : Text) ms = some v) : (Json.object ms).typesMember? = some v := by
  show (Entries.get? ("entityTypes" : Text) ms).or _ = some v
  rw [h, Option.some_or]

/-- The only member for the entity types is the one that counts, whatever its spelling. -/
theorem typesMember?_of_only {spelling : Text} (hspelling : spelling ∈ typesSpellings)
    {before after : List (Text × Json)}
    (habsent : ∀ s ∈ typesSpellings, s ∉ Entries.keys (before ++ after)) (v : Json) :
    (Json.object (before ++ (spelling, v) :: after)).typesMember? = some v := by
  have hbefore : ∀ s ∈ typesSpellings, s ∉ Entries.keys before := by
    intro s hs hmem
    apply habsent s hs
    rw [Entries.keys, List.map_append]
    exact List.mem_append_left _ hmem
  have hself := Entries.get?_append_cons_self (hbefore spelling hspelling) after v
  rcases List.mem_pair.mp hspelling with rfl | rfl
  · exact typesMember?_of_first hself
  · show (Entries.get? ("entityTypes" : Text) _).or (Entries.get? ("entity_types" : Text) _) = some v
    have hnone := Entries.get?_eq_none_iff.mpr (habsent "entityTypes" (by decide))
    rw [hself, Entries.get?_append_cons_ne (by decide), hnone, Option.none_or]

end LanguageModel

open LanguageModel in
/-- **A rewrite changes neither the phrases nor the slots.** -/
theorem ModelRewrite.agree {v v' : Json} (h : ModelRewrite v v') :
    Reading.Agree texts (LanguageModel.ofJson v) (LanguageModel.ofJson v') := by
  have htypesMember : ∀ {name : Text} {R : Json → Json → Prop} {ms ms' : List (Text × Json)},
      Within name R ms ms' → Option.Rel (Relation.ReflGen R) (Json.object ms).typesMember?
        (Json.object ms').typesMember? :=
    fun hwithin => rel_or (hwithin.rel _) (hwithin.rel _)
  have hintents : ∀ {spelling : Text}, spelling ∈ typesSpellings → spelling ≠ ("intents" : Text) := by
    intro spelling hspelling
    rcases List.mem_pair.mp hspelling with rfl | rfl <;> decide
  cases h with
  | @unread other v ms ms' hother hput =>
    have hknown : ∀ name ∈ knownNames, Entries.get? name ms = Entries.get? name ms' := by
      intro name hname
      apply hput.get?_ne
      rintro rfl
      exact hother hname
    apply agree_of_seen
    · rw [hknown "intents" (by decide)]
    · rw [typesMember?_congr fun s hs => hknown s (List.mem_cons_of_mem _ hs)]
  | @intent ms ms' hwithin =>
    have hintent : ∀ name x x', IntentRewrite x x' →
        Reading.Agree (fun intent => (intent.phrases.getD []).map (Phrase.mk name)) (Intent.ofJson x)
          (Intent.ofJson x') := fun name x x' hx => hx.agree name
    have hsame : ∀ x x', InTable IntentRewrite x x' → seenPhrases (some x) = seenPhrases (some x') :=
      fun x x' hx => agree_inTable hintent hx
    apply agree_of_seen
    · exact eq_of_rel hsame (hwithin.rel _)
    · rw [typesMember?_congr fun s hs => hwithin.get?_ne (hintents hs).symm]
  | @type spelling ms ms' hspelling hwithin =>
    have htype : ∀ name x x', TypeRewrite x x' →
        Reading.Agree (fun type => (type.values.getD []).flatMap (·.slots name)) (EntityType.ofJson x)
          (EntityType.ofJson x') := fun name x x' hx => hx.agree name
    have hsame : ∀ x x', InTable TypeRewrite x x' → seenSlots (some x) = seenSlots (some x') := by
      intro x x' hx
      have htable := agree_inTable htype hx
      cases hx with
      | mk _ => exact htable
    apply agree_of_seen
    · rw [hwithin.get?_ne (hintents hspelling)]
    · exact eq_of_rel hsame (htypesMember hwithin)
  | @null spelling ms ms' hspelling habsent hput =>
    apply agree_of_seen
    · rw [hput.get?_ne (hintents hspelling)]
    · cases hput with
      | mk before after =>
        -- nothing lists the same as null
        rw [typesMember?_of_absent habsent, typesMember?_of_only hspelling habsent]
        rfl
  | @empty spelling ms ms' hspelling hwithin =>
    have hsame : ∀ v v', Emptied (.object []) v v' → seenSlots (some v) = seenSlots (some v') := by
      rintro _ _ ⟨⟩
      rfl
    apply agree_of_seen
    · rw [hwithin.get?_ne (hintents hspelling)]
    · exact eq_of_rel hsame (htypesMember hwithin)
  | respelled hspelling hspelling' habsent =>
    apply agree_of_seen
    · rw [Entries.get?_append_cons_ne (hintents hspelling), Entries.get?_append_cons_ne (hintents hspelling')]
    · rw [typesMember?_of_only hspelling habsent, typesMember?_of_only hspelling' habsent]
  | @beside v ms ms' hfirst hput =>
    obtain ⟨x, hx⟩ := Entries.exists_get?_of_mem_keys hfirst
    have hx' : Entries.get? ("entityTypes" : Text) ms' = some x := by
      rw [← hput.get?_ne (by decide), hx]
    apply agree_of_seen
    · rw [hput.get?_ne (by decide)]
    · rw [typesMember?_of_first hx, typesMember?_of_first hx']

/-! ## Reports -/

/-- A standard check sees the texts of a model and nothing else. -/
theorem Check.run_standard_congr {m m' : LanguageModel} (h : m.texts = m'.texts) (locale : Text) :
    ∀ check ∈ Check.standard, check.run m locale = check.run m' locale := by
  have hphrases : m.phrases = m'.phrases := congrArg Prod.fst h
  have hslots : m.slots = m'.slots := congrArg Prod.snd h
  simp only [Check.standard, List.forall_mem_cons]
  refine ⟨?_, ?_, ?_, ?_, ?_, fun _ hmem => absurd hmem List.not_mem_nil⟩
  · show Except.ok (duplicatePhrases m locale) = .ok (duplicatePhrases m' locale)
    rw [duplicatePhrases, duplicatePhrases, hphrases]
  · show Except.ok (duplicateValues m locale) = .ok (duplicateValues m' locale)
    rw [duplicateValues, duplicateValues, hslots]
  · show Except.ok (outerBlankPhrases m locale) = .ok (outerBlankPhrases m' locale)
    rw [outerBlankPhrases, outerBlankPhrases, hphrases]
  · show Except.ok (outerBlankValues m locale) = .ok (outerBlankValues m' locale)
    rw [outerBlankValues, outerBlankValues, hslots]
  · show Except.ok (bracketFaults m locale) = .ok (bracketFaults m' locale)
    rw [bracketFaults, bracketFaults, hphrases]

namespace Linter

/-- A chain runs alike over models that its checks cannot tell apart. -/
theorem runChecks_congr {m m' : LanguageModel} {locale : Text} {checks : List Check}
    (h : ∀ check ∈ checks, check.run m locale = check.run m' locale) (sink? : Option Sink)
    (held : List Finding) : runChecks sink? held m locale checks = runChecks sink? held m' locale checks := by
  induction checks generalizing held with
  | nil => rfl
  | cons check rest ih =>
    have hfirst := h check List.mem_cons_self
    have hrest := ih fun c hc => h c (List.mem_cons_of_mem _ hc)
    unfold runChecks
    rw [hfirst]
    cases check.run m' locale with
    | error message => simp only [hrest]
    | ok findings => simp only [hrest]

theorem lintModel_congr {m m' : LanguageModel} {locale : Text} {linter : Linter}
    (h : ∀ check ∈ linter.checks, check.run m locale = check.run m' locale) (sink? : Option Sink)
    (held : List Finding) : linter.lintModel sink? held m locale = linter.lintModel sink? held m' locale := by
  unfold lintModel
  rw [runChecks_congr h]

/-- What is no model ends a run at once. -/
theorem lint_of_refused {v : Json} {locale : Text} {problems : List Problem}
    (hread : LanguageModel.ofJson v = .error problems) (linter : Linter) (sink? : Option Sink)
    (held : List Finding) :
    linter.lint sink? held (.document v) locale = .fail (.lint ⟨locale, .unfit problems⟩) := by
  have hfails : (Source.document v).read locale = .error (.lint ⟨locale, .unfit problems⟩) := by
    show Source.readDocument locale v = _
    unfold Source.readDocument
    rw [hread]
    rfl
  unfold lint
  rw [hfails, Run.ofExcept_error_bind]

/-- **A model lints alike however it is written.** After any number of rewrites, there and back, a document has
the same run: the same deliveries, the same log and the same report. Or neither document is a model, and both
runs end at once with the failure of the locale. -/
theorem lint_rewritten {v v' : Json} (h : Relation.EqvGen ModelRewrite v v') (sink? : Option Sink)
    (held : List Finding) (locale : Text) :
    standard.lint sink? held (.document v) locale = standard.lint sink? held (.document v') locale ∨
    ∃ problems problems',
      standard.lint sink? held (.document v) locale = .fail (.lint ⟨locale, .unfit problems⟩) ∧
      standard.lint sink? held (.document v') locale = .fail (.lint ⟨locale, .unfit problems'⟩) := by
  have hagree : Reading.Agree LanguageModel.texts (LanguageModel.ofJson v) (LanguageModel.ofJson v') := by
    induction h with
    | rel v v' h => exact h.agree
    | refl v => rfl
    | symm v v' _ ih => exact ih.symm
    | trans v w v' _ _ ih ih' => exact ih.trans ih'
  unfold Reading.Agree at hagree
  cases hv : LanguageModel.ofJson v with
  | ok m =>
    rw [hv] at hagree
    cases hv' : LanguageModel.ofJson v' with
    | ok m' =>
      rw [hv'] at hagree
      have htexts : m.texts = m'.texts := Option.some.inj hagree
      have hread : (Source.document v).read locale = .ok m := LanguageModel.readDocument_eq_ok.mpr hv
      have hread' : (Source.document v').read locale = .ok m' := LanguageModel.readDocument_eq_ok.mpr hv'
      left
      rw [lint_of_read hread, lint_of_read hread']
      exact lintModel_congr (Check.run_standard_congr htexts locale) sink? held
    | error problems =>
      rw [hv'] at hagree
      cases hagree
  | error problems =>
    rw [hv] at hagree
    cases hv' : LanguageModel.ofJson v' with
    | ok m' =>
      rw [hv'] at hagree
      cases hagree
    | error problems' =>
      exact .inr ⟨problems, problems', lint_of_refused hv _ _ _, lint_of_refused hv' _ _ _⟩

/-- The members of the document of a model with one entity type. -/
def gems (spelling : Text) (value : Json) : List (Text × Json) :=
  [("intents", .object []), (spelling, .object [("gem", .object [("values", .array [value])])])]

theorem lint_rewritten_gems :
    Relation.EqvGen ModelRewrite (.object (gems "entity_types" (.text " ruby")))
        (.object (("note", .null) ::
          gems "entityTypes" (.object [("value", .text " ruby"), ("synonyms", .null)]))) ∧
      standard.lint (some .accepting) [] (.document (.object (gems "entity_types" (.text " ruby")))) "en" =
        standard.lint (some .accepting) []
          (.document (.object (("note", .null) ::
            gems "entityTypes" (.object [("value", .text " ruby"), ("synonyms", .null)])))) "en" := by
  have hspelling : ModelRewrite (.object (gems "entity_types" (.text " ruby")))
      (.object (gems "entityTypes" (.text " ruby"))) :=
    @ModelRewrite.respelled _ _ _ [("intents", .object [])] [] (by decide) (by decide) (by decide)
  have hvalue : ∀ x x', ValueRewrite x x' →
      ModelRewrite (.object (gems "entityTypes" x)) (.object (gems "entityTypes" x')) := by
    intro x x' h
    have hvalues : InTable TypeRewrite (.object [("gem", .object [("values", .array [x])])])
        (.object [("gem", .object [("values", .array [x'])])]) :=
      .mk (.mk [] [] (.value (.mk [] [] (.mk [] [] h))))
    exact .type (by decide) (.mk [("intents", .object [])] [] hvalues)
  have hsynonyms : ValueRewrite (.object [("value", .text " ruby")])
      (.object [("value", .text " ruby"), ("synonyms", .null)]) :=
    .record (.null (by decide) (.mk [("value", .text " ruby")] []))
  have hnote : ∀ members, ModelRewrite (.object members) (.object (("note", .null) :: members)) :=
    fun members => .unread (by decide) (.mk [] members)
  have hrewritten := Relation.EqvGen.trans _ _ _ (.rel _ _ hspelling) (.trans _ _ _
    (.rel _ _ (hvalue _ _ (.bare " ruby"))) (.trans _ _ _ (.rel _ _ (hvalue _ _ hsynonyms))
      (.rel _ _ (hnote _))))
  refine ⟨hrewritten, ?_⟩
  rcases lint_rewritten hrewritten (some .accepting) [] "en" with hsame | ⟨problems, -, hfails, -⟩
  · exact hsame
  · have hread : (Source.document (.object (gems "entity_types" (.text " ruby")))).read "en" =
        .ok ⟨[], some [("gem", ⟨some [.bare " ruby"]⟩)]⟩ := by rfl
    rw [lint_of_read hread] at hfails
    have houtcome := congrArg Run.outcome hfails
    rw [outcome_lintModel Sink.willing_accepting] at houtcome
    cases houtcome

end Linter
end IntentLint

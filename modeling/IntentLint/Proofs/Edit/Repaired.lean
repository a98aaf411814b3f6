import IntentLint.Proofs.Linter.Verdict
import Mathlib.Data.List.Flatten

/-!
# `Proofs.Edit.Repaired` — a model without what its findings are about

A finding is about one phrase or one slot of the model, and a text that stands there more than once makes it
necessary to say which. So the phrases and the slots are numbered, in the order in which the checks go through
them, and the checks are run with these places carried along: they find what they find without them, and every
finding has the place at which it came up.

To repair a model is to delete the phrases, values and synonyms at these places, a value together with its
synonyms. One round of this suffices. A text whose first use is deleted may have a new first use, and a key may
lose a clash that was not deleted; but what is kept was not flagged, so no two kept texts have the same key, and
each is in order by itself.
-/

namespace IntentLint

variable {α β : Type}

/-! ## Places -/

/-- The items that stand at none of some places, when the first item stands at place `n`. -/
def keptFrom (dropped : List Nat) (n : Nat) (items : List α) : List α :=
  ((items.zipIdx n).filter fun use => use.2 ∉ dropped).map (·.1)

/-- Items that take up some places each, with the place at which each one starts. -/
def startsFrom (size : α → Nat) (n : Nat) : List α → List (α × Nat)
  | [] => []
  | item :: rest => (item, n) :: startsFrom size (n + size item) rest

variable {dropped : List Nat}

theorem keptFrom_nil (n : Nat) : keptFrom dropped n ([] : List α) = [] := rfl

theorem keptFrom_cons_of_mem {n : Nat} (h : n ∈ dropped) (item : α) (rest : List α) :
    keptFrom dropped n (item :: rest) = keptFrom dropped (n + 1) rest := by
  simp [keptFrom, h]

theorem keptFrom_cons_of_not_mem {n : Nat} (h : n ∉ dropped) (item : α) (rest : List α) :
    keptFrom dropped n (item :: rest) = item :: keptFrom dropped (n + 1) rest := by
  simp [keptFrom, h]

theorem keptFrom_append (n : Nat) (first second : List α) :
    keptFrom dropped n (first ++ second) =
      keptFrom dropped n first ++ keptFrom dropped (n + first.length) second := by
  unfold keptFrom
  rw [List.zipIdx_append, List.filter_append, List.map_append, Nat.add_comm]

theorem keptFrom_map (f : α → β) (n : Nat) (items : List α) :
    keptFrom dropped n (items.map f) = (keptFrom dropped n items).map f := by
  unfold keptFrom
  rw [List.zipIdx_map, List.filter_map, List.map_map, List.map_map]
  rfl

/-- To drop places in a list that is put together item by item is to drop them in every part. -/
theorem keptFrom_flatMap {f : α → List β} {size : α → Nat} (hsize : ∀ item, (f item).length = size item)
    (n : Nat) (items : List α) :
    keptFrom dropped n (items.flatMap f) =
      (startsFrom size n items).flatMap fun part => keptFrom dropped part.2 (f part.1) := by
  induction items generalizing n with
  | nil => rfl
  | cons item rest ih =>
    rw [List.flatMap_cons, keptFrom_append, ih, hsize]
    rfl

theorem exists_place_of_mem_keptFrom {n : Nat} {items : List α} {item : α}
    (h : item ∈ keptFrom dropped n items) : ∃ place, (item, place) ∈ items.zipIdx n ∧ place ∉ dropped := by
  obtain ⟨⟨kept, place⟩, hmem, rfl⟩ := List.mem_map.mp h
  obtain ⟨huse, hplace⟩ := List.mem_filter.mp hmem
  exact ⟨place, huse, of_decide_eq_true hplace⟩

/-! ## Uses with their places -/

theorem map_filter_zipIdx (p : α → Bool) (f : α → β) (uses : List α) :
    (uses.zipIdx.filter fun use => p use.1).map (fun use => f use.1) = (uses.filter p).map f := by
  conv_rhs => rw [← List.zipIdx_map_fst 0 uses, List.filter_map, List.map_map]
  rfl

theorem filterMap_zipIdx (f : α → Option β) (uses : List α) :
    uses.zipIdx.filterMap (fun use => f use.1) = uses.filterMap f := by
  conv_rhs => rw [← List.zipIdx_map_fst 0 uses, List.filterMap_map]
  rfl

/-- The uses that clash with an earlier one, with their places and the owners they clash with. -/
def clashesAt (key owner : α → Text) (uses : List α) : List ((α × Nat) × Text) :=
  clashes (fun use => key use.1) (fun use => owner use.1) uses.zipIdx

/-- Without their places these are the clashes. -/
theorem map_clashesAt (key owner : α → Text) (uses : List α) :
    (clashesAt key owner uses).map (fun clash => (clash.1.1, clash.2)) = clashes key owner uses := by
  have h := clashes_map Prod.fst key owner uses.zipIdx
  rw [List.zipIdx_map_fst] at h
  exact h.symm

/-- After some owners, the uses that are left when every clash is dropped have distinct keys without owners. -/
theorem nodup_keptFrom_clashesAfter {key owner : α → Text} {owners : List (Text × Text)} {n : Nat}
    {uses : List α}
    (h : ∀ clash ∈ clashesAfter (fun use : α × Nat => key use.1) (fun use => owner use.1) owners
      (uses.zipIdx n), clash.1.2 ∈ dropped) :
    ((keptFrom dropped n uses).map key).Nodup ∧
      ∀ use ∈ keptFrom dropped n uses, key use ∉ Entries.keys owners := by
  -- the record of owners holds the keys of all uses before, those that are dropped included
  induction uses generalizing owners n with
  | nil => simp [keptFrom_nil]
  | cons use rest ih =>
    rw [List.zipIdx_cons] at h
    unfold clashesAfter at h
    cases hg : Entries.get? (key use) owners with
    | some previous =>
      -- the use clashes, so its place is one of those that are dropped
      simp only [hg, List.forall_mem_cons] at h
      obtain ⟨hnodup, hnew⟩ := ih h.2
      rw [keptFrom_cons_of_mem h.1]
      refine ⟨hnodup, fun other hother howned => hnew other hother ?_⟩
      exact List.mem_cons_of_mem _ howned
    | none =>
      simp only [hg] at h
      obtain ⟨hnodup, hnew⟩ := ih h
      have hfirst : key use ∉ Entries.keys owners := Entries.get?_eq_none_iff.mp hg
      have hrest : ∀ other ∈ keptFrom dropped (n + 1) rest, key other ∉ Entries.keys owners :=
        fun other hother howned => hnew other hother (List.mem_cons_of_mem _ howned)
      -- a first use may be dropped as well, for a reason of its own
      by_cases hn : n ∈ dropped
      · rw [keptFrom_cons_of_mem hn]
        exact ⟨hnodup, hrest⟩
      · rw [keptFrom_cons_of_not_mem hn, List.map_cons, List.nodup_cons]
        refine ⟨⟨?_, hnodup⟩, ?_⟩
        · intro hmem
          obtain ⟨other, hother, hkey⟩ := List.mem_map.mp hmem
          exact hnew other hother (hkey ▸ List.mem_cons_self)
        · exact List.forall_mem_cons.mpr ⟨hfirst, hrest⟩

/-- **The uses that are left when every clash is dropped have distinct keys.** -/
theorem nodup_keptFrom_clashesAt {key owner : α → Text} {uses : List α}
    (h : ∀ clash ∈ clashesAt key owner uses, clash.1.2 ∈ dropped) :
    ((keptFrom dropped 0 uses).map key).Nodup :=
  (nodup_keptFrom_clashesAfter h).1

/-! ## Models without some places -/

/-- An intent without the phrases at some places; its first phrase stands at place `start`. -/
def Intent.without (dropped : List Nat) (start : Nat) (intent : Intent) : Intent :=
  ⟨intent.phrases.map (keptFrom dropped start)⟩

/-- What some dropped places leave of a value that starts at place `start`: nothing, if its own place is among
them, and else the value without the synonyms at these places. -/
def EntityValue.without? (dropped : List Nat) (start : Nat) : EntityValue → Option EntityValue
  | .bare t => if start ∈ dropped then none else some (.bare t)
  | .structured t synonyms =>
    if start ∈ dropped then none else some (.structured t (synonyms.map (keptFrom dropped (start + 1))))

/-- An entity type without the values and synonyms at some places; its first value starts at place `start`. -/
def EntityType.without (dropped : List Nat) (start : Nat) (type : EntityType) : EntityType :=
  ⟨type.values.map fun values =>
    (startsFrom (·.texts.length) start values).filterMap fun part => part.1.without? dropped part.2⟩

namespace LanguageModel

/-- A model without the phrases at some places and without the values and synonyms at others. -/
def without (phrasePlaces slotPlaces : List Nat) (m : LanguageModel) : LanguageModel where
  intents := (startsFrom (fun entry => (entry.2.phrases.getD []).length) 0 m.intents).map
    fun (entry, start) => (entry.1, entry.2.without phrasePlaces start)
  entityTypes := m.entityTypes.map fun types =>
    (startsFrom (fun entry => ((entry.2.values.getD []).flatMap EntityValue.texts).length) 0 types).map
      fun (entry, start) => (entry.1, entry.2.without slotPlaces start)

/-- What is left of the phrases. -/
theorem phrases_without (phrasePlaces slotPlaces : List Nat) (m : LanguageModel) :
    (m.without phrasePlaces slotPlaces).phrases = keptFrom phrasePlaces 0 m.phrases := by
  have hintent : ∀ (name : Text) (intent : Intent) (start : Nat),
      ((intent.without phrasePlaces start).phrases.getD []).map (Phrase.mk name) =
        keptFrom phrasePlaces start ((intent.phrases.getD []).map (Phrase.mk name)) := by
    rintro name ⟨_ | phrases⟩ start
    · rfl
    · exact (keptFrom_map _ _ _).symm
  have hsize : ∀ entry : Text × Intent, ((entry.2.phrases.getD []).map (Phrase.mk entry.1)).length =
      (entry.2.phrases.getD []).length := fun entry => List.length_map _
  rw [phrases_eq_flatMap, phrases_eq_flatMap, keptFrom_flatMap hsize]
  simp only [without, List.flatMap_map, hintent]

/-- What is left of the slots of a value is at most what is not dropped of them. -/
theorem slots_without_value (slotPlaces : List Nat) (start : Nat) (entityType : Text) (value : EntityValue) :
    ((value.without? slotPlaces start).toList.flatMap (·.slots entityType)).Sublist
      (keptFrom slotPlaces start (value.slots entityType)) := by
  by_cases hdropped : start ∈ slotPlaces
  · -- nothing is left, though the places of the synonyms need not be among the dropped ones
    cases value <;> simp [EntityValue.without?, hdropped]
  · cases value with
    | bare t =>
      simp [EntityValue.without?, EntityValue.slots, hdropped, keptFrom_cons_of_not_mem, keptFrom_nil]
    | structured t synonyms =>
      have hsynonyms : ((synonyms.map (keptFrom slotPlaces (start + 1))).getD []) =
          keptFrom slotPlaces (start + 1) (synonyms.getD []) := by
        cases synonyms <;> rfl
      simp [EntityValue.without?, EntityValue.slots, hdropped, keptFrom_cons_of_not_mem, keptFrom_map,
        hsynonyms]

theorem length_slots_value (entityType : Text) (value : EntityValue) :
    (value.slots entityType).length = value.texts.length := by
  rw [← map_text_slots_value entityType, List.length_map]

/-- What is left of the slots is at most what is not dropped of them: the synonyms of a dropped value go with
it. -/
theorem slots_without (phrasePlaces slotPlaces : List Nat) (m : LanguageModel) :
    (m.without phrasePlaces slotPlaces).slots.Sublist (keptFrom slotPlaces 0 m.slots) := by
  have htype : ∀ (name : Text) (type : EntityType) (start : Nat),
      (((type.without slotPlaces start).values.getD []).flatMap (·.slots name)).Sublist
        (keptFrom slotPlaces start ((type.values.getD []).flatMap (·.slots name))) := by
    rintro name ⟨_ | values⟩ start
    · exact List.Sublist.refl _
    · rw [keptFrom_flatMap (length_slots_value name)]
      simp only [EntityType.without, Option.map_some, Option.getD_some, List.filterMap_eq_flatMap_toList,
        List.flatMap_assoc]
      exact List.Sublist.flatMap_right _ fun part _ => slots_without_value slotPlaces part.2 name part.1
  rw [slots_eq_flatMap, slots_eq_flatMap]
  rcases m with ⟨intents, _ | types⟩
  · exact List.Sublist.refl _
  · have hsize : ∀ entry : Text × EntityType,
        ((entry.2.values.getD []).flatMap (·.slots entry.1)).length =
          ((entry.2.values.getD []).flatMap EntityValue.texts).length := by
      intro entry
      simp only [List.length_flatMap, length_slots_value]
    simp only [Option.getD_some]
    rw [keptFrom_flatMap hsize]
    simp only [without, Option.map_some, Option.getD_some, List.flatMap_map]
    exact List.Sublist.flatMap_right _ fun part _ => htype part.1.1 part.1.2 part.2

/-! ## Findings with their places -/

/-- The findings about phrases, each with the place of its phrase: those about duplicates, about outer blanks
and about braces. -/
def phraseFindings (m : LanguageModel) (locale : Text) : List (Nat × Finding) :=
  ((clashesAt (·.text.key) (·.intent) m.phrases).map fun ((p, place), owner) =>
    (place, p.duplicate locale owner)) ++
  (((m.phrases.zipIdx.filter (·.1.text.hasOuterBlank)).map fun (p, place) =>
    (place, p.outerBlank locale)) ++
  m.phrases.zipIdx.filterMap fun (p, place) =>
    (bracketFault? p.text).map fun fault => (place, p.bracket locale fault))

/-- The findings about values and synonyms, each with the place of its slot: those about duplicates and about
outer blanks. -/
def slotFindings (m : LanguageModel) (locale : Text) : List (Nat × Finding) :=
  ((clashesAt (·.text.key) Slot.owner m.slots).map fun ((s, place), owner) =>
    (place, s.duplicate locale owner)) ++
  (m.slots.zipIdx.filter (·.1.text.hasOuterBlank)).map fun (s, place) => (place, s.outerBlank locale)

/-- A model without what the findings in it are about. -/
def repaired (m : LanguageModel) (locale : Text) : LanguageModel :=
  m.without ((m.phraseFindings locale).map (·.1)) ((m.slotFindings locale).map (·.1))

variable (m : LanguageModel) (locale : Text)

/-- Without their places these are the findings of the three checks of phrases. -/
theorem map_phraseFindings : (m.phraseFindings locale).map (·.2) =
    duplicatePhrases m locale ++ (outerBlankPhrases m locale ++ bracketFaults m locale) := by
  have hblank := map_filter_zipIdx (·.text.hasOuterBlank) (·.outerBlank locale) m.phrases
  have hbracket := filterMap_zipIdx (fun p => (bracketFault? p.text).map (p.bracket locale)) m.phrases
  unfold duplicatePhrases outerBlankPhrases bracketFaults
  rw [← map_clashesAt, ← hblank, ← hbracket]
  simp only [phraseFindings, List.map_append, List.map_map, List.map_filterMap, Option.map_map,
    Function.comp_def]

/-- Without their places these are the findings of the two checks of values and synonyms. -/
theorem map_slotFindings : (m.slotFindings locale).map (·.2) =
    duplicateValues m locale ++ outerBlankValues m locale := by
  have hblank := map_filter_zipIdx (·.text.hasOuterBlank) (·.outerBlank locale) m.slots
  unfold duplicateValues outerBlankValues
  rw [← map_clashesAt, ← hblank]
  simp only [slotFindings, List.map_append, List.map_map, Function.comp_def]

variable {m locale}

/-- The places of findings about phrases. -/
theorem mem_places_phraseFindings {place : Nat} :
    place ∈ (m.phraseFindings locale).map (·.1) ↔
      (∃ clash ∈ clashesAt (·.text.key) (·.intent) m.phrases, clash.1.2 = place) ∨
        ∃ p, (p, place) ∈ m.phrases.zipIdx ∧
          (p.text.hasOuterBlank = true ∨ ∃ fault, bracketFault? p.text = some fault) := by
  simp only [phraseFindings, List.map_append, List.map_map, List.map_filterMap, Option.map_map,
    List.mem_append, List.mem_map, List.mem_filterMap, List.mem_filter, Option.map_eq_some_iff,
    Function.comp_apply]
  constructor
  · rintro (⟨clash, hclash, rfl⟩ | ⟨⟨p, _⟩, ⟨huse, hblank⟩, rfl⟩ | ⟨⟨p, _⟩, huse, fault, hfault, rfl⟩)
    · exact Or.inl ⟨clash, hclash, rfl⟩
    · exact Or.inr ⟨p, huse, Or.inl hblank⟩
    · exact Or.inr ⟨p, huse, Or.inr ⟨fault, hfault⟩⟩
  · rintro (⟨clash, hclash, rfl⟩ | ⟨p, huse, hblank | ⟨fault, hfault⟩⟩)
    · exact Or.inl ⟨clash, hclash, rfl⟩
    · exact Or.inr (Or.inl ⟨(p, place), ⟨huse, hblank⟩, rfl⟩)
    · exact Or.inr (Or.inr ⟨(p, place), huse, fault, hfault, rfl⟩)

/-- The places of findings about values and synonyms. -/
theorem mem_places_slotFindings {place : Nat} :
    place ∈ (m.slotFindings locale).map (·.1) ↔
      (∃ clash ∈ clashesAt (·.text.key) Slot.owner m.slots, clash.1.2 = place) ∨
        ∃ s, (s, place) ∈ m.slots.zipIdx ∧ s.text.hasOuterBlank = true := by
  simp only [slotFindings, List.map_append, List.map_map, List.mem_append, List.mem_map, List.mem_filter,
    Function.comp_apply]
  constructor
  · rintro (⟨clash, hclash, rfl⟩ | ⟨⟨s, _⟩, ⟨huse, hblank⟩, rfl⟩)
    · exact Or.inl ⟨clash, hclash, rfl⟩
    · exact Or.inr ⟨s, huse, hblank⟩
  · rintro (⟨clash, hclash, rfl⟩ | ⟨s, huse, hblank⟩)
    · exact Or.inl ⟨clash, hclash, rfl⟩
    · exact Or.inr ⟨(s, place), ⟨huse, hblank⟩, rfl⟩

/-! ## Repaired models -/

/-- A phrase of a repaired model is in order by itself. -/
theorem of_mem_phrases_repaired {p : Phrase} (h : p ∈ (m.repaired locale).phrases) :
    p.text.hasOuterBlank = false ∧ bracketFault? p.text = none := by
  rw [repaired, phrases_without] at h
  obtain ⟨place, huse, hkept⟩ := exists_place_of_mem_keptFrom h
  rw [mem_places_phraseFindings, not_or] at hkept
  have hfine : ¬ (p.text.hasOuterBlank = true ∨ ∃ fault, bracketFault? p.text = some fault) :=
    fun hwrong => hkept.2 ⟨p, huse, hwrong⟩
  rw [not_or] at hfine
  exact ⟨Bool.not_eq_true _ ▸ hfine.1, Option.eq_none_iff_forall_ne_some.mpr fun fault hfault =>
    hfine.2 ⟨fault, hfault⟩⟩

/-- A slot of a repaired model is in order by itself. -/
theorem of_mem_slots_repaired {s : Slot} (h : s ∈ (m.repaired locale).slots) :
    s.text.hasOuterBlank = false := by
  obtain ⟨place, huse, hkept⟩ := exists_place_of_mem_keptFrom ((slots_without _ _ m).subset h)
  rw [mem_places_slotFindings, not_or] at hkept
  have hfine : ¬ s.text.hasOuterBlank = true := fun hblank => hkept.2 ⟨s, huse, hblank⟩
  exact Bool.not_eq_true _ ▸ hfine

/-- **A repaired model is clean.** -/
theorem repaired_clean : (m.repaired locale).Clean where
  phrases_distinct := by
    rw [← map_text_phrases, List.map_map, repaired, phrases_without]
    exact nodup_keptFrom_clashesAt fun clash hclash =>
      mem_places_phraseFindings.mpr (Or.inl ⟨clash, hclash, rfl⟩)
  values_distinct := by
    rw [← map_text_slots, List.map_map]
    refine List.Nodup.sublist ((slots_without _ _ m).map _) ?_
    exact nodup_keptFrom_clashesAt fun clash hclash =>
      mem_places_slotFindings.mpr (Or.inl ⟨clash, hclash, rfl⟩)
  no_outer_blank := by
    intro t ht
    rw [← not_or, ← Text.hasOuterBlank_iff, Bool.not_eq_true]
    rcases List.mem_append.mp ht with ht | ht
    · rw [← map_text_phrases] at ht
      obtain ⟨p, hp, rfl⟩ := List.mem_map.mp ht
      exact (of_mem_phrases_repaired hp).1
    · rw [← map_text_slots] at ht
      obtain ⟨s, hs, rfl⟩ := List.mem_map.mp ht
      exact of_mem_slots_repaired hs
  phrases_bracketed := by
    intro t ht
    rw [← map_text_phrases] at ht
    obtain ⟨p, hp, rfl⟩ := List.mem_map.mp ht
    exact bracketFault_eq_none_iff.mp (of_mem_phrases_repaired hp).2

/-- The first use of a phrase stays, and a value that goes takes its synonyms with it. -/
example :
    repaired ⟨[("Greeting", ⟨some ["hello", "Hello", "hello \x7bname"]⟩)],
        some [("color", ⟨some [.bare "red", .structured "Red" (some ["ruby"]), .bare "blue"]⟩)]⟩ "en" =
      ⟨[("Greeting", ⟨some ["hello"]⟩)], some [("color", ⟨some [.bare "red", .bare "blue"]⟩)]⟩ := by
  decide +kernel

end LanguageModel

namespace Linter

/-- **One round of repair suffices.** The findings with their places are, without the places, what the checks
find in the model. When the phrases, values and synonyms at these places are deleted, the standard linter has
nothing to say for any locale, whatever the sink. -/
theorem lint_repaired (m : LanguageModel) (locale locale' : Text) (sink? : Option Sink)
    (held : List Finding) :
    (m.phraseFindings locale).map (·.2) =
        duplicatePhrases m locale ++ (outerBlankPhrases m locale ++ bracketFaults m locale) ∧
      (m.slotFindings locale).map (·.2) = duplicateValues m locale ++ outerBlankValues m locale ∧
      ∃ r, (standard.lint sink? held (.model (m.repaired locale)) locale').outcome = .ok r ∧
        r.passed = true := by
  refine ⟨m.map_phraseFindings locale, m.map_slotFindings locale, ?_⟩
  have hclean := @LanguageModel.repaired_clean m locale
  have htakes : Sink.Takes sink? held (standard.report (m.repaired locale) locale').findings := by
    rw [findings_standard_eq_nil_iff.mpr hclean]
    exact Sink.takes_nil
  refine ⟨standard.report (m.repaired locale) locale', ?_, passed_standard_iff.mpr hclean⟩
  rw [lint_model, lintModel_of_takes htakes]

end Linter
end IntentLint

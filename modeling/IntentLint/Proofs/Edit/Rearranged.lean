import IntentLint.Proofs.Linter.Verdict
import Mathlib.Data.List.Flatten
import Mathlib.Data.List.Forall2
import Mathlib.Data.List.Perm.Basic

/-!
# `Proofs.Edit.Rearranged` — models with their parts rearranged

To write a model in another order and to leave parts of it out are edits of one kind: at every level the parts
are rearranged, and each part that is there afterwards is edited in turn. What differs is the way in which a
list may be rearranged, a permutation or a sublist. Both can be followed through the lists that the checks go
through, because both respect putting lists together (`Rearranging`): the phrases and the slots of a
rearranged model are the rearranged phrases and slots, and so are the findings that are about one text alone.

An absent list of phrases, values, synonyms or entity types counts as an empty one.
-/

namespace IntentLint

variable {α β : Type}

/-! ## Ways to rearrange lists -/

/-- Relates a list to the list that it was before, whatever its items are. -/
abbrev ListRelation : Type 1 := ∀ α : Type, List α → List α → Prop

/-- A way to rearrange lists: it may be used again, and on each of the lists that one is put together from. -/
structure Rearranging (S : ListRelation) : Prop where
  refl : ∀ {α : Type} (items : List α), S α items items
  trans : ∀ {α : Type} {first second third : List α}, S α first second → S α second third → S α first third
  append : ∀ {α : Type} {new old new' old' : List α}, S α new old → S α new' old' →
    S α (new ++ new') (old ++ old')
  flatMap : ∀ {α β : Type} {new old : List α} (f : α → List β), S α new old →
    S β (new.flatMap f) (old.flatMap f)

theorem rearranging_perm : Rearranging fun _ => List.Perm where
  refl := List.Perm.refl
  trans := List.Perm.trans
  append := List.Perm.append
  flatMap f h := h.flatMap_right f

theorem rearranging_sublist : Rearranging fun _ => List.Sublist where
  refl := List.Sublist.refl
  trans := List.Sublist.trans
  append := List.Sublist.append
  flatMap f h := h.flatMap f

/-- The parts of a list come from those of another, part by part, after the other was rearranged. -/
def PartsRearranged (S : ListRelation) (R : α → α → Prop) (new old : List α) : Prop :=
  ∃ kept, S α kept old ∧ List.Forall₂ R new kept

namespace Rearranging

variable {S : ListRelation} {new old : List α}

theorem map (hS : Rearranging S) (f : α → β) (h : S α new old) : S β (new.map f) (old.map f) := by
  rw [List.map_eq_flatMap, List.map_eq_flatMap]
  exact hS.flatMap _ h

theorem filterMap (hS : Rearranging S) (f : α → Option β) (h : S α new old) :
    S β (new.filterMap f) (old.filterMap f) := by
  rw [List.filterMap_eq_flatMap_toList, List.filterMap_eq_flatMap_toList]
  exact hS.flatMap _ h

theorem filter (hS : Rearranging S) (p : α → Bool) (h : S α new old) :
    S α (new.filter p) (old.filter p) := by
  rw [← List.filterMap_eq_filter]
  exact hS.filterMap _ h

/-- What is made of rearranged parts is rearranged, if this holds of each part. -/
theorem flatMap_parts (hS : Rearranging S) {R : α → α → Prop} {f : α → List β}
    (hpart : ∀ part part', R part part' → S β (f part) (f part')) (h : PartsRearranged S R new old) :
    S β (new.flatMap f) (old.flatMap f) := by
  obtain ⟨kept, hkept, hparts⟩ := h
  refine hS.trans ?_ (hS.flatMap f hkept)
  clear hkept
  induction hparts with
  | nil => exact hS.refl []
  | cons hfirst _ ih => exact hS.append (hpart _ _ hfirst) ih

end Rearranging

/-! ## Rearranged models -/

/-- A value with its synonyms rearranged. -/
inductive EntityValue.Rearranged (S : ListRelation) : EntityValue → EntityValue → Prop where
  | bare (t : Text) : Rearranged S (.bare t) (.bare t)
  | structured (t : Text) {synonyms synonyms' : Option (List Text)}
      (h : S Text (synonyms.getD []) (synonyms'.getD [])) :
      Rearranged S (.structured t synonyms) (.structured t synonyms')

namespace LanguageModel

/-- A model with its intents and entity types rearranged, and in each that is there its phrases, its values and
their synonyms. -/
structure Rearranged (S : ListRelation) (new old : LanguageModel) : Prop where
  intents : PartsRearranged S
    (fun entry entry' => entry.1 = entry'.1 ∧ S Text (entry.2.phrases.getD []) (entry'.2.phrases.getD []))
    new.intents old.intents
  entityTypes : PartsRearranged S
    (fun entry entry' => entry.1 = entry'.1 ∧
      PartsRearranged S (EntityValue.Rearranged S) (entry.2.values.getD []) (entry'.2.values.getD []))
    (new.entityTypes.getD []) (old.entityTypes.getD [])

variable {S : ListRelation} {m m' : LanguageModel} {locale : Text}

theorem Rearranged.phrases (hS : Rearranging S) (h : m'.Rearranged S m) :
    S Phrase m'.phrases m.phrases := by
  refine hS.flatMap_parts ?_ h.intents
  rintro ⟨name, intent⟩ ⟨_, intent'⟩ ⟨rfl, hphrases⟩
  exact hS.map (Phrase.mk name) hphrases

theorem slots_rearranged_value (hS : Rearranging S) (entityType : Text) {value value' : EntityValue}
    (h : value'.Rearranged S value) : S Slot (value'.slots entityType) (value.slots entityType) := by
  cases h with
  | bare t => exact hS.refl _
  | structured t hsynonyms => exact hS.append (hS.refl [_]) (hS.map _ hsynonyms)

theorem Rearranged.slots (hS : Rearranging S) (h : m'.Rearranged S m) : S Slot m'.slots m.slots := by
  rw [slots_eq_flatMap, slots_eq_flatMap]
  refine hS.flatMap_parts ?_ h.entityTypes
  rintro ⟨name, type⟩ ⟨_, type'⟩ ⟨rfl, hvalues⟩
  exact hS.flatMap_parts (fun _ _ => slots_rearranged_value hS name) hvalues

/-! ## Findings about one text -/

/-- The findings that are about one text alone: those about outer blanks and about braces. -/
def loneFindings (m : LanguageModel) (locale : Text) : List Finding :=
  outerBlankPhrases m locale ++ (outerBlankValues m locale ++ bracketFaults m locale)

theorem Rearranged.loneFindings (hS : Rearranging S) (h : m'.Rearranged S m) (locale : Text) :
    S Finding (m'.loneFindings locale) (m.loneFindings locale) := by
  have hphrases := h.phrases hS
  have hslots := h.slots hS
  refine hS.append ?_ (hS.append ?_ ?_)
  · exact hS.map _ (hS.filter _ hphrases)
  · exact hS.map _ (hS.filter _ hslots)
  · exact hS.filterMap _ hphrases

end LanguageModel
end IntentLint

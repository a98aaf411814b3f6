import IntentLint.Proofs.Check.Duplicate

/-!
# `Proofs.Check.KeptOwner` — owners that a synonym would leave in place

A record of owners can treat a synonym whose key has an owner in two ways. The key can be taken over, as the check for
duplicate values has it, or the owner can be kept: then a value takes its key over, and a synonym takes one only when
no slot before it has that key. So the kept owner of a key is the entity type of the latest value with it, or, when no
value has it, the value of its first synonym (`keptOwner?`).

A finding names the kept owner, unless the slot before with the key is a synonym that was a duplicate itself, of
another value than the kept owner (`duplicateValue_namesKeptOwner_iff`). It takes three slots with one key to see the
difference, and a synonym in the middle.
-/

namespace IntentLint

/-! ## Kept owners -/

/-- The owner of a key behind some slots, if a synonym takes over no key that has an owner. -/
def keptOwner? (k : Text) (slots : List Slot) : Option Text :=
  match ((usesOf (·.text.key) k slots).filter (·.kind = .value)).getLast? with
  | some value => some value.entityType.key
  | none => (usesOf (·.text.key) k slots).head?.map (·.target.key)

section Record

variable {k : Text} {s : Slot}

/-- A value takes its key over. -/
theorem keptOwner?_concat_value (hkey : s.text.key = k) (hkind : s.kind = .value) (slots : List Slot) :
    keptOwner? k (slots ++ [s]) = some s.entityType.key := by
  unfold keptOwner?
  rw [usesOf_concat_self (fun s : Slot => s.text.key) hkey, List.filter_append,
    List.filter_cons_of_pos (by simpa using hkind), List.filter_nil, List.getLast?_concat]

/-- A synonym takes a key that has no owner, and no other. -/
theorem keptOwner?_concat_synonym (hkey : s.text.key = k) (hkind : s.kind = .synonym) (slots : List Slot) :
    keptOwner? k (slots ++ [s]) = (keptOwner? k slots).or (some s.target.key) := by
  unfold keptOwner?
  -- the values with the key are the same ones, and the synonym is the first use only if there is no other
  rw [usesOf_concat_self (fun s : Slot => s.text.key) hkey, List.filter_append,
    List.filter_cons_of_neg (by simp [hkind]), List.filter_nil, List.append_nil]
  cases ((usesOf (·.text.key) k slots).filter (·.kind = .value)).getLast? with
  | some value => rfl
  | none => rw [List.head?_append, Option.map_or]; rfl

/-- Slots with other keys change nothing about the owner of a key. -/
theorem keptOwner?_append_of_not_mem {after : List Slot} (h : k ∉ after.map (·.text.key)) (slots : List Slot) :
    keptOwner? k (slots ++ after) = keptOwner? k slots := by
  unfold keptOwner?
  rw [usesOf_append, usesOf_eq_nil_iff.mpr h, List.append_nil]

/-- A key has no owner exactly when no slot has it. -/
theorem keptOwner?_eq_none_iff {slots : List Slot} : keptOwner? k slots = none ↔ k ∉ slots.map (·.text.key) := by
  rw [← usesOf_eq_nil_iff]
  unfold keptOwner?
  cases h : ((usesOf (·.text.key) k slots).filter (·.kind = .value)).getLast? with
  | some value =>
    have hmem := List.mem_of_mem_filter (List.mem_of_getLast? h)
    simp only [reduceCtorEq, false_iff]
    exact List.ne_nil_of_mem hmem
  | none => rw [Option.map_eq_none_iff, List.head?_eq_none_iff]

end Record

/-! ## Findings -/

namespace Slot

/-- The sentence about a slot whose key has an owner. -/
def usedTwice (locale : Text) (s : Slot) (owner : Text) : Text :=
  label s.kind ++ " '" ++ s.text.key ++ "' is used at least twice in both entity types '" ++ owner ++ "' and '" ++
    s.entityType ++ "' in '" ++ locale ++ "' model. "

/-- A finding about a slot names the owner that its key would have behind the slots before it, if owners were
kept. -/
def NamesKeptOwner (locale : Text) (before : List Slot) (s : Slot) (f : Finding) : Prop :=
  (keptOwner? s.text.key before).map (s.usedTwice locale) = some f.message

theorem usedTwice_injective (locale : Text) (s : Slot) : Function.Injective (s.usedTwice locale) := by
  intro owner other h
  unfold usedTwice at h
  simp only [List.append_left_inj] at h
  exact List.append_cancel_left h

end Slot

/-- Behind the latest slot with a key, its owner is the kept one when the slot is a value, the first one with the key,
or a synonym of a value that was the kept owner before. -/
theorem keptOwner?_eq_owner_iff {m : LanguageModel} {front after : List Slot} {latest : Slot} (hmem : latest ∈ m.slots)
    (hafter : latest.text.key ∉ after.map (·.text.key)) :
    keptOwner? latest.text.key (front ++ latest :: after) = some latest.owner ↔
      latest.kind = .value ∨ latest.text.key ∉ front.map (·.text.key) ∨
        keptOwner? latest.text.key front = some latest.target.key := by
  rw [List.append_cons, keptOwner?_append_of_not_mem hafter]
  unfold Slot.owner
  cases hkind : latest.kind with
  | value =>
    rw [keptOwner?_concat_value rfl hkind, LanguageModel.target_of_mem_slots_value hmem hkind]
    simp
  | synonym =>
    rw [keptOwner?_concat_synonym rfl hkind, ← keptOwner?_eq_none_iff]
    cases keptOwner? latest.text.key front <;> simp

/-- **When the check for duplicate values names the kept owner.** A finding names the owner of the latest earlier slot
with the key. That is the kept owner exactly when this slot is a value, or no slot before it has the key, or it is a
synonym of the value that was the kept owner before it. -/
theorem duplicateValue_namesKeptOwner_iff (m : LanguageModel) (locale : Text) :
    ∃ findings, Check.duplicateValue.run m locale = .ok findings ∧
      List.Forall₂
        (fun (slot : Slot × Nat) f => ∃ front latest after,
          m.slots.take slot.2 = front ++ latest :: after ∧ latest.text.key = slot.1.text.key ∧
            slot.1.text.key ∉ after.map (·.text.key) ∧ slot.1.DuplicateFinding locale latest f ∧
            (slot.1.NamesKeptOwner locale (m.slots.take slot.2) f ↔
              latest.kind = .value ∨ slot.1.text.key ∉ front.map (·.text.key) ∨
                keptOwner? slot.1.text.key front = some latest.target.key))
        (repeats (·.text.key) m.slots) findings := by
  refine ⟨duplicateValues m locale, rfl, ?_⟩
  apply (forall₂_map_clashes (·.text.key) Slot.owner (Slot.duplicate locale) m.slots).imp
  rintro ⟨s, place⟩ f ⟨latest, hlatest, rfl⟩
  have hmem : latest ∈ m.slots := List.mem_of_mem_take (mem_of_latestWith hlatest)
  obtain ⟨front, after, hbefore, hkey, hafter⟩ := hlatest
  refine ⟨front, latest, after, hbefore, hkey, hafter, duplicateFinding_duplicate hmem locale s, ?_⟩
  -- the sentence differs with the owner, so it is a matter of the owner that it names
  have hnames : s.NamesKeptOwner locale (m.slots.take place) (s.duplicate locale latest.owner) ↔
      keptOwner? s.text.key (m.slots.take place) = some latest.owner :=
    (Option.map_injective (s.usedTwice_injective locale)).eq_iff' rfl
  have hsame : latest.text.key = s.text.key := hkey
  show s.NamesKeptOwner locale (m.slots.take place) (s.duplicate locale latest.owner) ↔
    latest.kind = .value ∨ s.text.key ∉ front.map (·.text.key) ∨ keptOwner? s.text.key front = some latest.target.key
  rw [hnames, hbefore, ← hsame]
  exact keptOwner?_eq_owner_iff hmem (hsame ▸ hafter)

/-- A value, a synonym of another value and a value, in three entity types and with one key. -/
def takenRuby : LanguageModel :=
  ⟨[], some [("Gem", ⟨some [.bare "ruby"]⟩), ("Color", ⟨some [.structured "red" (some ["Ruby"])]⟩),
    ("Name", ⟨some [.bare "RUBY"]⟩)]⟩

/-- **A synonym that is a duplicate takes its key over.** The finding about the value behind it names the value of the
synonym, and not the entity type of the value before it. -/
theorem duplicateValue_takenRuby :
    ∃ findings, Check.duplicateValue.run takenRuby "en" = .ok findings ∧
      findings.map (·.message) =
        [Text.ofString
            "synonym/value 'ruby' is used at least twice in both entity types 'gem' and 'Color' in 'en' model. ",
          Text.ofString "value 'ruby' is used at least twice in both entity types 'red' and 'Name' in 'en' model. "] ∧
      keptOwner? "ruby" (takenRuby.slots.take 3) = some (Text.ofString "gem") ∧
      ¬ List.Forall₂
        (fun (slot : Slot × Nat) f => slot.1.NamesKeptOwner "en" (takenRuby.slots.take slot.2) f)
        (repeats (·.text.key) takenRuby.slots) findings := by
  refine ⟨duplicateValues takenRuby "en", rfl, by decide +kernel, by decide +kernel, fun h => ?_⟩
  have hmessages : (repeats (·.text.key) takenRuby.slots).map
      (fun slot => (keptOwner? slot.1.text.key (takenRuby.slots.take slot.2)).map (slot.1.usedTwice "en")) =
        (duplicateValues takenRuby "en").map fun f => some f.message := by
    rw [← List.forall₂_eq_eq_eq, List.forall₂_map_left_iff, List.forall₂_map_right_iff]
    exact h
  exact absurd hmessages (by decide +kernel)

end IntentLint

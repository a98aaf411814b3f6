import IntentLint.Proofs.Check.Clash

/-!
# `Proofs.Check.Duplicate` — what the checks for duplicates find

The texts by which the values of a model are recognised stand in one row of slots, value by value, with the
synonyms of a value behind it. A slot is a duplicate when an earlier slot has the same key, whatever kinds the two
are of and whichever entity types they belong to. The check has one finding for each duplicate, in the order of the
slots, and nothing else (`duplicateValue_exact`).

A finding names the owner of the latest earlier slot with the key. So in a row of slots with one key each finding
names the owner of the slot before, not that of the first one: a duplicate that was found takes over the key, and
so does a synonym.

Phrases stand in one row too, intent by intent, and there the owner of a key is the intent of the latest phrase with
it (`duplicatePhrase_exact`). So the findings of a key go through the intents that use it, each finding from one to
the next, and chains of them join any two.
-/

namespace IntentLint

/-! ## Values and synonyms -/

/-- What a finding says about a slot whose key an earlier slot has. The key is normalised, and so is the owner of
the earlier slot: its entity type, or the value that it is a synonym of. The entity type of the slot itself is as
it was written. -/
structure Slot.DuplicateFinding (locale : Text) (s earlier : Slot) (f : Finding) : Prop where
  code : f.code = match s.kind with
    | .value => .duplicateEntityValue
    | .synonym => .duplicateEntitySynonym
  message : ∃ owner : Text, (earlier.kind = .value → owner = earlier.entityType.key) ∧
    (earlier.kind = .synonym → owner = earlier.target.key) ∧
    f.message = Slot.label s.kind ++ " '" ++ s.text.key ++ "' is used at least twice in both entity types '" ++
      owner ++ "' and '" ++ s.entityType ++ "' in '" ++ locale ++ "' model. "
  text : f.text = s.text.key
  intent : f.intent = none
  entityType : f.entityType = some s.entityType
  locale : f.locale = locale

/-- The name that recognising a value leads to is that of its entity type. -/
theorem LanguageModel.target_of_mem_slots_value {m : LanguageModel} {s : Slot} (h : s ∈ m.slots)
    (hkind : s.kind = .value) : s.target = s.entityType := by
  obtain ⟨⟨entityType, value⟩, -, hs⟩ := List.mem_flatMap.mp h
  cases value with
  | bare t =>
    cases List.mem_singleton.mp hs
    rfl
  | structured t synonyms =>
    rcases List.mem_cons.mp hs with rfl | hsynonym
    · rfl
    · obtain ⟨synonym, -, rfl⟩ := List.mem_map.mp hsynonym
      cases hkind

theorem mem_of_latestWith {α : Type} {key : α → Text} {k : Text} {uses : List α} {use : α}
    (h : LatestWith key k uses use) : use ∈ uses := by
  obtain ⟨before, after, rfl, -, -⟩ := h
  exact List.mem_append_right _ List.mem_cons_self

/-- The finding of a slot says what it should about the owner of the earlier slot. -/
theorem duplicateFinding_duplicate {m : LanguageModel} {earlier : Slot} (h : earlier ∈ m.slots) (locale : Text)
    (s : Slot) : s.DuplicateFinding locale earlier (s.duplicate locale earlier.owner) where
  code := rfl
  message := by
    refine ⟨earlier.owner, fun hvalue => ?_, fun _ => rfl, rfl⟩
    unfold Slot.owner
    rw [LanguageModel.target_of_mem_slots_value h hvalue]
  text := rfl
  intent := rfl
  entityType := rfl
  locale := rfl

/-- **What the check for duplicate values finds.** It comes to one finding for each slot whose key an earlier slot
has, in the order of the slots. The finding names the owner of the latest such slot. -/
theorem duplicateValue_exact (m : LanguageModel) (locale : Text) :
    ∃ findings, Check.duplicateValue.run m locale = .ok findings ∧
      List.Forall₂
        (fun (slot : Slot × Nat) f => ∃ earlier,
          LatestWith (·.text.key) slot.1.text.key (m.slots.take slot.2) earlier ∧
            slot.1.DuplicateFinding locale earlier f)
        (repeats (·.text.key) m.slots) findings := by
  refine ⟨duplicateValues m locale, rfl, ?_⟩
  unfold duplicateValues
  rw [List.forall₂_map_right_iff]
  refine (forall₂_clashes (·.text.key) Slot.owner m.slots).imp ?_
  rintro ⟨s, place⟩ ⟨s', owner⟩ ⟨rfl, earlier, hlatest, rfl⟩
  exact ⟨earlier, hlatest, duplicateFinding_duplicate (List.mem_of_mem_take (mem_of_latestWith hlatest)) locale s'⟩

/-- A synonym takes over the key of a value, and the next value with the key clashes with it. -/
example : (duplicateValues
    ⟨[], some [("Gem", ⟨some [.bare "ruby", .structured "red" (some ["Ruby "])]⟩), ("Name", ⟨some [.bare "RUBY"]⟩)]⟩
    "en").map (·.message) =
      [("synonym/value 'ruby' is used at least twice in both entity types 'gem' and 'Gem' in 'en' model. " : Text),
        "value 'ruby' is used at least twice in both entity types 'red' and 'Name' in 'en' model. "] := by
  decide +kernel

/-! ## Phrases -/

namespace LanguageModel

/-- The sentence about a key that two phrases have. -/
def Phrase.usedInBoth (locale k earlier later : Text) : Text :=
  "phrase '" ++ k ++ "' is used in both intents '" ++ earlier ++ "' and '" ++ later ++ "' in '" ++ locale ++
    "' model. "

/-- What a finding says about a phrase whose key an earlier phrase has. The key is normalised, and the two intents
are named as they were written. -/
structure Phrase.DuplicateFinding (locale : Text) (p earlier : Phrase) (f : Finding) : Prop where
  code : f.code = .duplicatePhrase
  message : f.message = usedInBoth locale p.text.key earlier.intent p.intent
  text : f.text = p.text.key
  intent : f.intent = some p.intent
  entityType : f.entityType = none
  locale : f.locale = locale

theorem Phrase.duplicateFinding_of_earlier (locale : Text) (p earlier : Phrase) :
    p.DuplicateFinding locale earlier (p.duplicate locale earlier.intent) where
  code := rfl
  message := rfl
  text := rfl
  intent := rfl
  entityType := rfl
  locale := rfl

/-- The phrases of a model that have a key, in order. -/
def phrasesOf (k : Text) (m : LanguageModel) : List Phrase := usesOf (·.text.key) k m.phrases

end LanguageModel

open LanguageModel

/-- One of some findings about a key names an intent as the earlier one and another as the later one. -/
def Links (findings : List Finding) (locale k earlier later : Text) : Prop :=
  ∃ f ∈ findings, f.text = k ∧ f.intent = some later ∧ f.message = Phrase.usedInBoth locale k earlier later

/-- The findings about a key are those of neighbouring phrases. -/
theorem filter_duplicatePhrases (m : LanguageModel) (locale k : Text) :
    (duplicatePhrases m locale).filter (·.text == k) =
      ((m.phrasesOf k).zip (m.phrasesOf k).tail).map fun pair => pair.2.duplicate locale pair.1.intent := by
  have htext : ((fun f : Finding => f.text == k) ∘ fun (p, owner) => Phrase.duplicate locale p owner) =
      fun clash => clash.1.text.key == k := rfl
  unfold duplicatePhrases phrasesOf
  rw [List.filter_map, htext, filter_clashes (fun p : Phrase => p.text.key), List.map_map]
  rfl

/-- **The findings about a key link the intents that use it, each to the next.** -/
theorem isChain_links (m : LanguageModel) (locale k : Text) :
    ((m.phrasesOf k).map (·.intent)).IsChain (Links (duplicatePhrases m locale) locale k) := by
  rw [List.isChain_map]
  apply isChain_of_forall_zip
  intro pair hpair
  have hmem : pair.2 ∈ m.phrasesOf k := List.mem_of_mem_tail (List.of_mem_zip hpair).2
  have hkey : pair.2.text.key = k := key_of_mem_usesOf (fun p : Phrase => p.text.key) hmem
  have hf : pair.2.duplicate locale pair.1.intent ∈ (duplicatePhrases m locale).filter (·.text == k) := by
    rw [filter_duplicatePhrases]
    exact List.mem_map_of_mem hpair
  refine ⟨_, List.mem_of_mem_filter hf, hkey, rfl, ?_⟩
  rw [← hkey]
  rfl

/-- **What the check for duplicate phrases finds.** It comes to one finding for each phrase whose key an earlier
phrase has, in the order of the phrases, and the finding names the intent of the latest such phrase. So a key has one
finding less than it has phrases, the findings about it pair each of these phrases with the next, and from the intent
of an earlier one they lead to the intent of every later one. -/
theorem duplicatePhrase_exact (m : LanguageModel) (locale : Text) :
    ∃ findings, Check.duplicatePhrase.run m locale = .ok findings ∧
      List.Forall₂
        (fun (phrase : Phrase × Nat) f => ∃ earlier,
          LatestWith (·.text.key) phrase.1.text.key (m.phrases.take phrase.2) earlier ∧
            phrase.1.DuplicateFinding locale earlier f)
        (repeats (·.text.key) m.phrases) findings ∧
      ∀ k : Text,
        (findings.map (·.text)).count k = (m.phrases.map (·.text.key)).count k - 1 ∧
        List.Forall₂ (fun (pair : Phrase × Phrase) f => pair.2.DuplicateFinding locale pair.1 f)
          ((m.phrasesOf k).zip (m.phrasesOf k).tail) (findings.filter (·.text == k)) ∧
        ((m.phrasesOf k).map (·.intent)).Pairwise (Relation.TransGen (Links findings locale k)) := by
  refine ⟨duplicatePhrases m locale, rfl, ?_, ?_⟩
  · apply (forall₂_map_clashes (·.text.key) Phrase.intent (Phrase.duplicate locale) m.phrases).imp
    rintro ⟨p, place⟩ f ⟨earlier, hlatest, rfl⟩
    exact ⟨earlier, hlatest, p.duplicateFinding_of_earlier locale earlier⟩
  · intro k
    refine ⟨?_, ?_, ?_⟩
    · rw [← count_clashes (·.text.key) Phrase.intent]
      unfold duplicatePhrases
      rw [List.map_map]
      rfl
    · rw [filter_duplicatePhrases, List.forall₂_map_right_iff, List.forall₂_same]
      intro pair _
      exact pair.2.duplicateFinding_of_earlier locale pair.1
    · apply List.IsChain.pairwise
      apply (isChain_links m locale k).imp
      intro earlier later hlink
      exact Relation.TransGen.single hlink

/-- The third of three phrases with one key is found against the second. -/
example : (duplicatePhrases
    ⟨[("A", ⟨some ["test"]⟩), ("B", ⟨some ["test"]⟩), ("C", ⟨some ["TEST"]⟩)], none⟩ "en").map (·.message) =
      [("phrase 'test' is used in both intents 'A' and 'B' in 'en' model. " : Text),
        "phrase 'test' is used in both intents 'B' and 'C' in 'en' model. "] := by
  decide +kernel

end IntentLint

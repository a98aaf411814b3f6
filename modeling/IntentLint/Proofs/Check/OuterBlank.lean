import IntentLint.Check.OuterBlank
import IntentLint.Proofs.Text.Trim
import Mathlib.Data.List.Forall2

/-!
# `Proofs.Check.OuterBlank` — what the checks for outer blanks find

A text is reported when trimming changes it. That is so exactly when its first or its last code point is a blank:
never for the empty text, never for blanks inside a text alone, and always for a text of nothing but blanks.

The phrases are gone through in one row, and so are the slots of the entity types: type by type, value by value, the
text of a value before its synonyms. Either check has one finding for each text to report, in the order of its row
(`outerBlank_exact`).
-/

namespace IntentLint

/-! ## Blanks at an end -/

/-- The numbers of the blanks: tab, line terminators, spaces of any width and the byte order mark. -/
def blankNumbers : List Nat :=
  [0x9, 0xA, 0xB, 0xC, 0xD, 0x20, 0xA0, 0x1680, 0x2000, 0x2001, 0x2002, 0x2003, 0x2004, 0x2005, 0x2006,
   0x2007, 0x2008, 0x2009, 0x200A, 0x2028, 0x2029, 0x202F, 0x205F, 0x3000, 0xFEFF]

theorem CodePoint.isBlank_iff {c : CodePoint} : c.isBlank = true ↔ c.val ∈ blankNumbers := by
  simp only [isBlank, Ranges.contains, blanks, blankNumbers, List.any_cons, List.any_nil, Bool.or_eq_true,
    Bool.and_eq_true, decide_eq_true_iff, Bool.false_eq_true, List.mem_cons, List.not_mem_nil, or_false]
  omega

namespace Text

/-- The first or the last code point of a text is a blank. -/
def BlankAtEnd (t : Text) : Prop := t.StartsBlank ∨ t.EndsBlank

instance (t : Text) : Decidable t.BlankAtEnd := decidable_of_iff _ hasOuterBlank_iff

/-- A text has a blank in it, and none at an end. -/
def OnlyInnerBlanks (t : Text) : Prop :=
  ∃ first inner last, t = first :: (inner ++ [last]) ∧ first.isBlank = false ∧ last.isBlank = false ∧
    ∃ c ∈ inner, c.isBlank = true

theorem not_blankAtEnd_nil : ¬ BlankAtEnd [] := by
  rintro (⟨c, hc, -⟩ | hend)
  · cases hc
  · exact not_endsBlank_nil hend

theorem OnlyInnerBlanks.not_blankAtEnd {t : Text} (h : t.OnlyInnerBlanks) : ¬ t.BlankAtEnd := by
  obtain ⟨first, inner, last, rfl, hfirst, hlast, -⟩ := h
  rintro (hstart | ⟨c, hc, hblank⟩)
  · rw [startsBlank_cons, hfirst] at hstart
    cases hstart
  · rw [← List.cons_append, List.getLast?_concat] at hc
    cases hc
    rw [hlast] at hblank
    cases hblank

theorem blankAtEnd_of_blanks {t : Text} (hne : t ≠ []) (h : ∀ c ∈ t, c.isBlank = true) : t.BlankAtEnd := by
  cases t with
  | nil => exact absurd rfl hne
  | cons c rest => exact Or.inl (startsBlank_cons.mpr (h c List.mem_cons_self))

end Text

/-! ## Reports -/

section Reports

variable {α : Type} {text : α → Text} {Says : α → Finding → Prop}

/-- Some findings report the items of a row whose text has a blank at an end, and nothing else. -/
structure ReportsBlanks (text : α → Text) (Says : α → Finding → Prop) (row : List α)
    (findings : List Finding) : Prop where
  exactly : List.Forall₂ Says (row.filter fun item => (text item).BlankAtEnd) findings
  not_empty : ∀ f ∈ findings, f.text ≠ []
  not_inner : ∀ f ∈ findings, ¬ f.text.OnlyInnerBlanks
  all_blank : ∀ item ∈ row, text item ≠ [] → (∀ c ∈ text item, c.isBlank = true) →
    ∃ f ∈ findings, Says item f

/-- The findings of the items that trimming changes report the blanks of a row, if each of them says what it should
and quotes the text of its item. -/
theorem reportsBlanks_map {finding : α → Finding} (hfinding : ∀ item, Says item (finding item))
    (htext : ∀ item, (finding item).text = text item) (row : List α) :
    ReportsBlanks text Says row ((row.filter fun item => (text item).hasOuterBlank).map finding) := by
  have hreported : (row.filter fun item => (text item).hasOuterBlank) =
      row.filter fun item => (text item).BlankAtEnd := by
    apply List.filter_congr
    intro item _
    rw [Bool.eq_iff_iff, Text.hasOuterBlank_iff, decide_eq_true_iff]
    rfl
  have hblank : ∀ f ∈ (row.filter fun item => (text item).BlankAtEnd).map finding, f.text.BlankAtEnd := by
    intro f hf
    obtain ⟨item, hitem, rfl⟩ := List.mem_map.mp hf
    rw [htext]
    exact of_decide_eq_true (List.mem_filter.mp hitem).2
  rw [hreported]
  constructor
  case exactly =>
    rw [List.forall₂_map_right_iff, List.forall₂_same]
    intro item _
    exact hfinding item
  case not_empty =>
    intro f hf hempty
    exact Text.not_blankAtEnd_nil (hempty ▸ hblank f hf)
  case not_inner =>
    intro f hf hinner
    exact hinner.not_blankAtEnd (hblank f hf)
  case all_blank =>
    intro item hitem hne hall
    have hend : decide (text item).BlankAtEnd = true := decide_eq_true (Text.blankAtEnd_of_blanks hne hall)
    exact ⟨finding item, List.mem_map_of_mem (List.mem_filter.mpr ⟨hitem, hend⟩), hfinding item⟩

end Reports

/-! ## Findings -/

/-- What a finding says about a phrase with a blank at an end. It quotes the phrase as it was written. -/
structure LanguageModel.Phrase.OuterBlankFinding (locale : Text) (p : Phrase) (f : Finding) : Prop where
  code : f.code = .whitespacePhrase
  message : f.message = "phrase '" ++ p.text ++ "' has superfluous whitespace in intent '" ++ p.intent ++
    "' in '" ++ locale ++ "' model. "
  text : f.text = p.text
  intent : f.intent = some p.intent
  entityType : f.entityType = none
  locale : f.locale = locale

/-- What a finding says about a slot with a blank at an end. It quotes the text as it was written, and calls it by
what it is. -/
structure Slot.OuterBlankFinding (locale : Text) (s : Slot) (f : Finding) : Prop where
  code : f.code = match s.kind with
    | .value => .whitespaceEntityValue
    | .synonym => .whitespaceEntitySynonym
  message : ∃ name : Text, (s.kind = .value → name = "value") ∧ (s.kind = .synonym → name = "synonym/value") ∧
    f.message = name ++ " '" ++ s.text ++ "' has superfluous whitespace in entity type '" ++ s.entityType ++
      "' in '" ++ locale ++ "' model. "
  text : f.text = s.text
  intent : f.intent = none
  entityType : f.entityType = some s.entityType
  locale : f.locale = locale

theorem LanguageModel.Phrase.outerBlankFinding_outerBlank (locale : Text) (p : Phrase) :
    p.OuterBlankFinding locale (p.outerBlank locale) where
  code := rfl
  message := rfl
  text := rfl
  intent := rfl
  entityType := rfl
  locale := rfl

theorem Slot.outerBlankFinding_outerBlank (locale : Text) (s : Slot) :
    s.OuterBlankFinding locale (s.outerBlank locale) where
  code := rfl
  message := ⟨label s.kind, fun h => by rw [h]; rfl, fun h => by rw [h]; rfl, rfl⟩
  text := rfl
  intent := rfl
  entityType := rfl
  locale := rfl

/-- **What the checks for outer blanks find.** The check of phrases comes to one finding for each phrase whose first
or last code point is a blank, in the order of the phrases. The check of values does so for the slots, each under the
code and the name of its kind. -/
theorem outerBlank_exact (m : LanguageModel) (locale : Text) :
    (∀ c : CodePoint, c.isBlank = true ↔ c.val ∈ blankNumbers) ∧
    (∃ findings, Check.phraseBlank.run m locale = .ok findings ∧
      ReportsBlanks (·.text) (LanguageModel.Phrase.OuterBlankFinding locale) m.phrases findings) ∧
    ∃ findings, Check.valueBlank.run m locale = .ok findings ∧
      ReportsBlanks (·.text) (Slot.OuterBlankFinding locale) m.slots findings := by
  refine ⟨fun _ => CodePoint.isBlank_iff, ?_, ?_⟩
  · exact ⟨_, rfl, reportsBlanks_map (LanguageModel.Phrase.outerBlankFinding_outerBlank locale)
      (fun _ => rfl) m.phrases⟩
  · exact ⟨_, rfl, reportsBlanks_map (Slot.outerBlankFinding_outerBlank locale) (fun _ => rfl) m.slots⟩

end IntentLint

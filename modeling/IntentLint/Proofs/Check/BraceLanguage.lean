import IntentLint.Proofs.Check.Bracket
import Mathlib.Computability.Language
import Mathlib.Data.List.Forall2

/-!
# `Proofs.Check.BraceLanguage` — what the braces of a phrase decide

Only the braces of a phrase matter to the scan for a fault. Over two letters, an opening and a closing brace, the
outcomes of the scan are three languages. No fault: pairs of an opening and a closing brace, one after the other. A
missing opening brace: pairs, and then a closing brace. A missing closing brace: pairs, and then an opening brace
that is the last one or has another opening brace behind it.

The three languages are a partition, and each is exactly what the scan answers its outcome for
(`bracketFault_eq_iff`). Behind the braces scanned so far, the scan is in one of two states: they are pairs, or they
are pairs and an opening brace behind them.
-/

namespace IntentLint

open Computability

/-- The braces of a text. -/
def Text.braces (t : Text) : Text := t.filter fun c => c == CodePoint.ofChar '{' || c == CodePoint.ofChar '}'

/-- Pairs of an opening and a closing brace. -/
def bracePairs : Language CodePoint :=
  ({[CodePoint.ofChar '{', CodePoint.ofChar '}']} : Language CodePoint)∗

/-- The braces for which a scan has an outcome. -/
def braceLanguage : Option BracketFault → Language CodePoint
  | none => bracePairs
  | some .missingOpening => {b | ∃ pairs ∈ bracePairs, ∃ rest, b = pairs ++ CodePoint.ofChar '}' :: rest}
  | some .missingClosing =>
    {b | ∃ pairs ∈ bracePairs, ∃ rest, b = pairs ++ CodePoint.ofChar '{' :: rest ∧
      (rest = [] ∨ ∃ more, rest = CodePoint.ofChar '{' :: more)}

/-! ## Braces of a text -/

theorem Text.braces_cons_of_brace {c : CodePoint} (h : c = CodePoint.ofChar '{' ∨ c = CodePoint.ofChar '}')
    (t : Text) : Text.braces (c :: t) = c :: t.braces := by
  unfold braces
  rw [List.filter_cons_of_pos (by simpa using h)]

theorem Text.braces_cons_of_other {c : CodePoint} (hopen : c ≠ CodePoint.ofChar '{')
    (hclose : c ≠ CodePoint.ofChar '}') (t : Text) : Text.braces (c :: t) = t.braces := by
  unfold braces
  rw [List.filter_cons_of_neg (by simp [hopen, hclose])]

/-- **The scan passes over everything but braces.** -/
theorem bracketFaultFrom_braces (inside : Bool) (t : Text) :
    bracketFaultFrom inside t.braces = bracketFaultFrom inside t := by
  induction t generalizing inside with
  | nil => rfl
  | cons c t ih =>
    by_cases hbrace : c = CodePoint.ofChar '{' ∨ c = CodePoint.ofChar '}'
    · rw [Text.braces_cons_of_brace hbrace, bracketFaultFrom, bracketFaultFrom]
      simp only [ih]
    · obtain ⟨hopen, hclose⟩ := not_or.mp hbrace
      rw [Text.braces_cons_of_other hopen hclose, bracketFaultFrom, if_neg hopen, if_neg hclose]
      exact ih inside

/-! ## Pairs -/

theorem nil_mem_bracePairs : [] ∈ bracePairs := Language.nil_mem_kstar _

/-- A pair in front of pairs makes pairs. -/
theorem cons_mem_bracePairs {b : Text} (h : b ∈ bracePairs) :
    CodePoint.ofChar '{' :: CodePoint.ofChar '}' :: b ∈ bracePairs := by
  obtain ⟨parts, rfl, hparts⟩ := Language.mem_kstar.mp h
  refine Language.mem_kstar.mpr ⟨[CodePoint.ofChar '{', CodePoint.ofChar '}'] :: parts, rfl, ?_⟩
  intro part hpart
  rcases List.mem_cons.mp hpart with rfl | hpart
  · exact Set.mem_singleton _
  · exact hparts part hpart

/-- A pair in front of braces changes nothing about the outcome they stand for. -/
theorem cons_mem_braceLanguage {outcome : Option BracketFault} {b : Text} (h : b ∈ braceLanguage outcome) :
    CodePoint.ofChar '{' :: CodePoint.ofChar '}' :: b ∈ braceLanguage outcome := by
  match outcome, h with
  | none, h => exact cons_mem_bracePairs h
  | some .missingOpening, ⟨pairs, hpairs, rest, hb⟩ =>
    exact ⟨_, cons_mem_bracePairs hpairs, rest, by rw [hb]; rfl⟩
  | some .missingClosing, ⟨pairs, hpairs, rest, hb, hrest⟩ =>
    exact ⟨_, cons_mem_bracePairs hpairs, rest, by rw [hb]; rfl, hrest⟩

/-- The scan passes over pairs. -/
theorem bracketFaultFrom_bracePairs {pairs : Text} (h : pairs ∈ bracePairs) (rest : Text) :
    bracketFaultFrom false (pairs ++ rest) = bracketFaultFrom false rest := by
  obtain ⟨parts, rfl, hparts⟩ := Language.mem_kstar.mp h
  clear h
  induction parts with
  | nil => rfl
  | cons part parts ih =>
    have hpart : part = [CodePoint.ofChar '{', CodePoint.ofChar '}'] := hparts part List.mem_cons_self
    rw [List.flatten_cons, List.append_assoc, hpart]
    exact ih fun p hp => hparts p (List.mem_cons_of_mem _ hp)

/-! ## Outcomes of a scan -/

/-- Braces have the outcome of the language they are in. -/
theorem bracketFault_of_mem {outcome : Option BracketFault} {b : Text} (h : b ∈ braceLanguage outcome) :
    bracketFault? b = outcome := by
  unfold bracketFault?
  match outcome, h with
  | none, h =>
    have hscan := bracketFaultFrom_bracePairs h []
    rw [List.append_nil] at hscan
    exact hscan
  | some .missingOpening, ⟨pairs, hpairs, rest, hb⟩ =>
    rw [hb, bracketFaultFrom_bracePairs hpairs]
    rfl
  | some .missingClosing, ⟨pairs, hpairs, rest, hb, hrest⟩ =>
    rw [hb, bracketFaultFrom_bracePairs hpairs]
    rcases hrest with rfl | ⟨more, rfl⟩ <;> rfl

/-- The braces of a text are in the language of the outcome of its scan: as they are when the scan starts outside of
variables, and behind an opening brace when it starts inside of one. -/
theorem braces_mem_braceLanguage (t : Text) :
    t.braces ∈ braceLanguage (bracketFaultFrom false t) ∧
      CodePoint.ofChar '{' :: t.braces ∈ braceLanguage (bracketFaultFrom true t) := by
  induction t with
  | nil => exact ⟨nil_mem_bracePairs, [], nil_mem_bracePairs, [], rfl, Or.inl rfl⟩
  | cons c t ih =>
    obtain ⟨outside, inside⟩ := ih
    by_cases hopen : c = CodePoint.ofChar '{'
    · subst hopen
      rw [Text.braces_cons_of_brace (Or.inl rfl)]
      exact ⟨inside, [], nil_mem_bracePairs, _, rfl, Or.inr ⟨_, rfl⟩⟩
    · by_cases hclose : c = CodePoint.ofChar '}'
      · subst hclose
        rw [Text.braces_cons_of_brace (Or.inr rfl)]
        exact ⟨⟨[], nil_mem_bracePairs, _, rfl⟩, cons_mem_braceLanguage outside⟩
      · rw [Text.braces_cons_of_other hopen hclose, bracketFaultFrom, bracketFaultFrom, if_neg hopen,
          if_neg hclose, if_neg hopen, if_neg hclose]
        exact ⟨outside, inside⟩

/-- **The braces of a phrase decide what is wrong with it.** -/
theorem bracketFault_eq_iff {t : Text} {outcome : Option BracketFault} :
    bracketFault? t = outcome ↔ t.braces ∈ braceLanguage outcome := by
  constructor
  · rintro rfl
    exact (braces_mem_braceLanguage t).1
  · intro h
    rw [← bracketFault_of_mem h]
    exact (bracketFaultFrom_braces false t).symm

/-! ## Findings -/

/-- What a finding says about a phrase with a fault. It quotes the phrase as it was written. -/
structure LanguageModel.Phrase.BracketFinding (locale : Text) (p : Phrase) (fault : BracketFault)
    (f : Finding) : Prop where
  code : f.code = match fault with
    | .missingClosing => .bracketMissingClosing
    | .missingOpening => .bracketMissingOpening
  message : f.message = "missing " ++ fault.words ++ " bracket in phrase '" ++ p.text ++ "' in intent '" ++
    p.intent ++ "' in '" ++ locale ++ "' model. "
  text : f.text = p.text
  intent : f.intent = some p.intent
  entityType : f.entityType = none
  locale : f.locale = locale

theorem LanguageModel.Phrase.bracketFinding_bracket (locale : Text) (p : Phrase) (fault : BracketFault) :
    p.BracketFinding locale fault (p.bracket locale fault) where
  code := rfl
  message := rfl
  text := rfl
  intent := rfl
  entityType := rfl
  locale := rfl

/-- What is made of the items of a list is in the order of those that something is made of. -/
theorem forall₂_filterMap {α β : Type} (f : α → Option β) (items : List α) :
    List.Forall₂ (fun item made => f item = some made) (items.filter fun item => (f item).isSome)
      (items.filterMap f) := by
  induction items with
  | nil => exact List.Forall₂.nil
  | cons item rest ih =>
    cases h : f item with
    | none => simpa [h] using ih
    | some made => simpa [h] using ih

/-- **What the check for brackets finds.** A scan has no fault for pairs of braces, a missing opening brace for pairs
and a closing brace behind them, and a missing closing brace for pairs and behind them an opening brace that is the
last one or stands before another. The check comes to one finding for each phrase with a fault, in the order of the
phrases. -/
theorem bracket_exact (m : LanguageModel) (locale : Text) :
    (∀ phrase : Text,
      (bracketFault? phrase = none ↔ phrase.braces ∈ braceLanguage none) ∧
      (bracketFault? phrase = some .missingOpening ↔ phrase.braces ∈ braceLanguage (some .missingOpening)) ∧
      (bracketFault? phrase = some .missingClosing ↔ phrase.braces ∈ braceLanguage (some .missingClosing)) ∧
      (∃! outcome, phrase.braces ∈ braceLanguage outcome) ∧
      (phrase.braces ∈ braceLanguage none ↔ phrase.Bracketed) ∧
      bracketFault? phrase = bracketFault? phrase.braces) ∧
    ∃ findings, Check.bracket.run m locale = .ok findings ∧
      List.Forall₂
        (fun (p : LanguageModel.Phrase) f => ∃ fault, bracketFault? p.text = some fault ∧
          p.BracketFinding locale fault f)
        (m.phrases.filter fun p => (bracketFault? p.text).isSome) findings := by
  refine ⟨?_, bracketFaults m locale, rfl, ?_⟩
  · intro phrase
    have hone : ∃! outcome, phrase.braces ∈ braceLanguage outcome := by
      refine ⟨bracketFault? phrase, bracketFault_eq_iff.mp rfl, ?_⟩
      intro outcome h
      exact (bracketFault_eq_iff.mpr h).symm
    have hbracketed : phrase.braces ∈ braceLanguage none ↔ phrase.Bracketed := by
      rw [← bracketFault_eq_iff, bracketFault_eq_none_iff]
    exact ⟨bracketFault_eq_iff, bracketFault_eq_iff, bracketFault_eq_iff, hone, hbracketed,
      (bracketFaultFrom_braces false phrase).symm⟩
  · have hmade := forall₂_filterMap (fun p => (bracketFault? p.text).map (p.bracket locale)) m.phrases
    simp only [Option.isSome_map] at hmade
    apply hmade.imp
    intro p f hf
    obtain ⟨fault, hfault, rfl⟩ := Option.map_eq_some_iff.mp hf
    exact ⟨fault, hfault, p.bracketFinding_bracket locale fault⟩

end IntentLint

import IntentLint.Failure
import IntentLint.Model.Reading

/-!
# `Proofs.Model.Problems` — where the problems of a model's document are

A reading that looks at a part puts the step to that part in front of every problem it finds. So the problems
of an object that is read as a language model all lie in its member `intents` or in the one for its entity
types, and their words begin with the name of that member. A document that is no object has one problem, at
the root, and its words begin with a mark of their own: what is said of the one kind of document is never
said of the other.
-/

namespace IntentLint

namespace Reading

variable {α β : Type}

/-- Every problem of a part begins with the step to the part. -/
theorem head_path_of_under {step : Step} {r : Reading α} {ps : List Problem} (h : r.under step = .error ps) :
    ∀ p ∈ ps, p.path.head? = some step := by
  unfold under at h
  cases r with
  | ok a => cases h
  | error qs =>
    cases h
    intro p hp
    obtain ⟨q, -, rfl⟩ := List.mem_map.mp hp
    rfl

theorem mem_of_both {a : Reading α} {b : Reading β} {ps : List Problem} (h : both a b = .error ps) :
    ∀ p ∈ ps, (∃ qs, a = .error qs ∧ p ∈ qs) ∨ ∃ qs, b = .error qs ∧ p ∈ qs := by
  intro p hp
  cases a with
  | ok x =>
    cases b with
    | ok y => cases h
    | error qs =>
      cases h
      exact Or.inr ⟨ps, rfl, hp⟩
  | error qs =>
    cases b with
    | ok y =>
      cases h
      exact Or.inl ⟨ps, rfl, hp⟩
    | error qs' =>
      cases h
      rcases List.mem_append.mp hp with hq | hq
      · exact Or.inl ⟨qs, rfl, hq⟩
      · exact Or.inr ⟨qs', rfl, hq⟩

theorem map_eq_error {r : Reading α} {f : α → β} {ps : List Problem} (h : r.map f = .error ps) :
    r = .error ps := by
  cases r with
  | ok a => cases h
  | error qs =>
    cases h
    rfl

theorem head_path_of_required {name : Text} {read : Json → Reading α} {members : List (Text × Json)}
    {ps : List Problem} (h : required name read members = .error ps) :
    ∀ p ∈ ps, p.path.head? = some (.member name) := by
  unfold required at h
  split at h
  · exact head_path_of_under h
  · exact head_path_of_under h

theorem head_path_of_possible {name : Text} {read : Json → Reading α} {members : List (Text × Json)}
    {ps : List Problem} (h : possible name read members = .error ps) :
    ∀ p ∈ ps, p.path.head? = some (.member name) := by
  unfold possible at h
  split at h
  · exact head_path_of_under h
  · cases h

end Reading

/-! ## Language models -/

namespace LanguageModel

/-- **The problems of an object lie in the members that count.** -/
theorem head_path_of_object {members : List (Text × Json)} {ps : List Problem}
    (h : ofJson (.object members) = .error ps) :
    ∀ p ∈ ps, p.path.head? = some (.member "intents") ∨
      p.path.head? = some (.member (entityTypesName members)) := by
  intro p hp
  rcases Reading.mem_of_both (Reading.map_eq_error h) p hp with ⟨qs, hqs, hq⟩ | ⟨qs, hqs, hq⟩
  · exact Or.inl (Reading.head_path_of_required hqs p hq)
  · exact Or.inr (Reading.head_path_of_possible hqs p hq)

/-- The problem of a document that is no object. -/
def rootProblem : Problem := ⟨[], .notRecord .languageModel⟩

/-- A document that is no object has one problem, whatever it is. -/
theorem ofJson_of_not_object {v : Json} (h : ∀ members, v ≠ .object members) :
    ofJson v = .error [rootProblem] := by
  cases v with
  | object members => exact absurd rfl (h members)
  | _ => rfl

end LanguageModel

/-! ## Wording -/

theorem Text.head?_join {separator part : Text} {parts : List Text} (h : part ≠ []) :
    (Text.join separator (part :: parts)).head? = part.head? := by
  obtain ⟨c, rest, rfl⟩ := List.exists_cons_of_ne_nil h
  cases parts with
  | nil => rw [Text.join, List.intercalate_singleton]
  | cons next parts => rw [Text.join, List.intercalate_cons_cons]; rfl

namespace Problem

/-- The words for a problem begin with its first step. -/
theorem head?_words {p : Problem} {step : Step} (hstep : p.path.head? = some step)
    (hne : step.words ≠ []) : p.words.head? = step.words.head? := by
  obtain ⟨path, defect⟩ := p
  cases path with
  | nil => cases hstep
  | cons first rest =>
    cases hstep
    obtain ⟨c, more, hwords⟩ := List.exists_cons_of_ne_nil hne
    have hjoin : (Text.join "." ((step :: rest).map Step.words)).head? = some c := by
      rw [List.map_cons, Text.head?_join hne, hwords]
      rfl
    obtain ⟨later, hlater⟩ := List.head?_eq_some_iff.mp hjoin
    unfold words place
    rw [hlater, hwords]
    rfl

/-- **What is said of an object is not what is said of a document that is none.** -/
theorem list_of_object_ne {members : List (Text × Json)} {ps : List Problem}
    (h : LanguageModel.ofJson (.object members) = .error ps) :
    Problem.list ps ≠ Problem.list [LanguageModel.rootProblem] := by
  intro heq
  cases ps with
  | nil => cases heq
  | cons p rest =>
    have hroot : (Problem.list [LanguageModel.rootProblem]).head? = some (CodePoint.ofChar '<') := by decide
    -- every spelling of a member begins with a letter
    have hnames : ∃ step : Step, p.path.head? = some step ∧ step.words ≠ [] ∧
        step.words.head? ≠ some (CodePoint.ofChar '<') := by
      rcases LanguageModel.head_path_of_object h p List.mem_cons_self with hp | hp
      · exact ⟨_, hp, by decide, by decide⟩
      · refine ⟨_, hp, ?_⟩
        unfold LanguageModel.entityTypesName
        split
        · decide
        · decide
    obtain ⟨step, hstep, hne, hmark⟩ := hnames
    have hwords := head?_words hstep hne
    have hnonempty : p.words ≠ [] := by
      intro hnil
      rw [hnil] at hwords
      exact hne (List.head?_eq_none_iff.mp hwords.symm)
    have hlist : (Problem.list (p :: rest)).head? = step.words.head? := by
      rw [Problem.list, List.map_cons, Text.head?_join hnonempty, hwords]
    rw [heq, hroot] at hlist
    exact hmark hlist.symm

end Problem
end IntentLint

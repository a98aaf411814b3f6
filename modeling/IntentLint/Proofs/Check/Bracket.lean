import IntentLint.Check.Bracket

/-!
# `Proofs.Check.Bracket` — the phrases whose braces pair up

The scan for a fault keeps one Boolean: inside a variable or outside. What it accepts is described without a
scan: a phrase is *bracketed* when it is a text without braces followed by variables, each in one pair of
braces and each with a text without braces after it. The two agree.
-/

namespace IntentLint
namespace Text

/-- A text without braces. -/
def BraceFree (t : Text) : Prop := ∀ c ∈ t, c ≠ CodePoint.ofChar '{' ∧ c ≠ CodePoint.ofChar '}'

/-- A variable in its braces, and the text after it. -/
def bracketedPart (part : Text × Text) : Text :=
  CodePoint.ofChar '{' :: (part.1 ++ CodePoint.ofChar '}' :: part.2)

/-- A text `t₀{s₁}t₁…{sₙ}tₙ` in which no part has a brace of its own. -/
def Bracketed (t : Text) : Prop :=
  ∃ (start : Text) (parts : List (Text × Text)),
    BraceFree start ∧ (∀ part ∈ parts, BraceFree part.1 ∧ BraceFree part.2) ∧
      t = start ++ parts.flatMap bracketedPart

theorem braceFree_nil : BraceFree [] := by
  intro c hc
  cases hc

theorem braceFree_cons {c : CodePoint} {rest : Text} :
    BraceFree (c :: rest) ↔ (c ≠ CodePoint.ofChar '{' ∧ c ≠ CodePoint.ofChar '}') ∧ BraceFree rest := by
  simp [BraceFree]

/-- A text that goes on outside of variables as `rest` does is bracketed when `rest` is. -/
theorem Bracketed.cons {c : CodePoint} {rest : Text} (hopen : c ≠ CodePoint.ofChar '{')
    (hclose : c ≠ CodePoint.ofChar '}') (h : Bracketed rest) : Bracketed (c :: rest) := by
  obtain ⟨start, parts, hstart, hparts, rfl⟩ := h
  exact ⟨c :: start, parts, braceFree_cons.mpr ⟨⟨hopen, hclose⟩, hstart⟩, hparts, rfl⟩

/-- A variable in front of a bracketed text makes a bracketed text. -/
theorem Bracketed.variable_append {s rest : Text} (hs : BraceFree s) (h : Bracketed rest) :
    Bracketed (CodePoint.ofChar '{' :: (s ++ CodePoint.ofChar '}' :: rest)) := by
  obtain ⟨start, parts, hstart, hparts, rfl⟩ := h
  refine ⟨[], (s, start) :: parts, braceFree_nil, ?_, ?_⟩
  · intro part hpart
    rcases List.mem_cons.mp hpart with rfl | hpart
    · exact ⟨hs, hstart⟩
    · exact hparts part hpart
  · simp [bracketedPart]

end Text

/-! ## The scan -/

open Text

/-- The scan passes over a text without braces. -/
theorem bracketFaultFrom_append {inside : Bool} {s : Text} (hs : BraceFree s) (rest : Text) :
    bracketFaultFrom inside (s ++ rest) = bracketFaultFrom inside rest := by
  induction s with
  | nil => rfl
  | cons c s ih =>
    obtain ⟨⟨hopen, hclose⟩, hs⟩ := braceFree_cons.mp hs
    rw [List.cons_append, bracketFaultFrom, if_neg hopen, if_neg hclose]
    exact ih hs

/-- The scan ends in the same way if a text without braces stands at the end. -/
theorem bracketFaultFrom_append_braceFree {inside : Bool} (t : Text) {s : Text} (hs : BraceFree s) :
    bracketFaultFrom inside (t ++ s) = bracketFaultFrom inside t := by
  induction t generalizing inside with
  | nil =>
    have hskip : bracketFaultFrom inside (s ++ []) = bracketFaultFrom inside [] :=
      bracketFaultFrom_append hs []
    rw [List.append_nil] at hskip
    exact hskip
  | cons c t ih => simp only [List.cons_append, bracketFaultFrom, ih]

/-- The scan passes over a variable and the text after it. -/
theorem bracketFaultFrom_bracketedPart {part : Text × Text} (h : BraceFree part.1 ∧ BraceFree part.2)
    (rest : Text) : bracketFaultFrom false (bracketedPart part ++ rest) = bracketFaultFrom false rest := by
  have hne : (CodePoint.ofChar '}') ≠ CodePoint.ofChar '{' := by decide
  simp only [bracketedPart, List.cons_append, List.append_assoc, bracketFaultFrom, if_true,
    Bool.false_eq_true, if_false]
  rw [bracketFaultFrom_append h.1, bracketFaultFrom, if_neg hne, if_pos rfl, if_pos rfl,
    bracketFaultFrom_append h.2]

/-- A bracketed phrase has no fault. -/
theorem bracketFault_of_bracketed {t : Text} (h : Bracketed t) : bracketFault? t = none := by
  obtain ⟨start, parts, hstart, hparts, rfl⟩ := h
  unfold bracketFault?
  rw [bracketFaultFrom_append hstart]
  induction parts with
  | nil => rfl
  | cons part parts ih =>
    rw [List.flatMap_cons, bracketFaultFrom_bracketedPart (hparts part List.mem_cons_self)]
    exact ih fun p hp => hparts p (List.mem_cons_of_mem _ hp)

/-- What the scan accepts, from outside of variables and from inside of one: there, the variable must be
closed first. -/
theorem bracketed_of_bracketFaultFrom (t : Text) :
    (bracketFaultFrom false t = none → Bracketed t) ∧
      (bracketFaultFrom true t = none →
        ∃ s rest, BraceFree s ∧ Bracketed rest ∧ t = s ++ CodePoint.ofChar '}' :: rest) := by
  induction t with
  | nil =>
    refine ⟨fun _ => ⟨[], [], braceFree_nil, by simp, rfl⟩, fun h => ?_⟩
    cases h
  | cons c t ih =>
    obtain ⟨outside, inside⟩ := ih
    by_cases hopen : c = CodePoint.ofChar '{'
    · subst hopen
      refine ⟨fun h => ?_, fun h => ?_⟩
      · simp only [bracketFaultFrom, if_true, Bool.false_eq_true, if_false] at h
        obtain ⟨s, rest, hs, hrest, rfl⟩ := inside h
        exact Bracketed.variable_append hs hrest
      · simp [bracketFaultFrom] at h
    · by_cases hclose : c = CodePoint.ofChar '}'
      · subst hclose
        refine ⟨fun h => ?_, fun h => ?_⟩
        · simp [bracketFaultFrom, hopen] at h
        · simp only [bracketFaultFrom, if_neg hopen, if_true] at h
          exact ⟨[], t, braceFree_nil, outside h, rfl⟩
      · refine ⟨fun h => ?_, fun h => ?_⟩
        · rw [bracketFaultFrom, if_neg hopen, if_neg hclose] at h
          exact (outside h).cons hopen hclose
        · rw [bracketFaultFrom, if_neg hopen, if_neg hclose] at h
          obtain ⟨s, rest, hs, hrest, rfl⟩ := inside h
          exact ⟨c :: s, rest, braceFree_cons.mpr ⟨⟨hopen, hclose⟩, hs⟩, hrest, rfl⟩

/-- **A phrase has no fault exactly when it is bracketed.** -/
theorem bracketFault_eq_none_iff {t : Text} : bracketFault? t = none ↔ Bracketed t :=
  ⟨(bracketed_of_bracketFaultFrom t).1, bracketFault_of_bracketed⟩

end IntentLint

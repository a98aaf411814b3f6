import IntentLint.Check.Basic
import IntentLint.Proofs.Text.Lowercase
import Mathlib.Data.List.Flatten

/-!
# `Proofs.Text.OneLine` — texts that fit on one line

Lines written one after the other, each with a line feed behind it, are cut up at the line feeds into the parts of
each line and one empty part (`splitAt_lines`). So what comes back is the lines themselves exactly when none of
them has a line feed in it (`splitAt_lines_eq_iff`).

A text on one line stays on one line when it is trimmed or put in lower case: trimming adds nothing, and lower
case adds nothing but letters and marks.
-/

namespace IntentLint
namespace Text

/-! ## Parts of a text -/

section Parts

variable {mark : CodePoint}

/-- To cut a text up is to split the list of its code points. -/
theorem splitAt_eq_splitOn (mark : CodePoint) (t : Text) : splitAt mark t = List.splitOn mark t := by
  induction t with
  | nil => rw [splitAt, List.splitOn_nil]
  | cons c rest ih =>
    rw [splitAt, ih, List.splitOn_cons_eq_if_modifyHead]
    by_cases hc : c = mark
    · rw [if_pos hc, if_pos (beq_iff_eq.mpr hc)]
    · rw [if_neg hc, if_neg (mt beq_iff_eq.mp hc)]
      cases hparts : List.splitOn mark rest with
      | nil => exact absurd hparts (List.splitOn_ne_nil mark rest)
      | cons part parts => rfl

/-- **A text has one part more than it has occurrences.** -/
theorem length_splitAt (mark : CodePoint) (t : Text) : (splitAt mark t).length = t.count mark + 1 := by
  rw [splitAt_eq_splitOn]
  induction t with
  | nil => rw [List.splitOn_nil]; rfl
  | cons c rest ih =>
    rw [List.splitOn_cons_eq_if_modifyHead, List.count_cons]
    split
    · rw [List.length_cons, ih]
    · rw [List.length_modifyHead, ih, Nat.add_zero]

theorem splitAt_of_not_mem {t : Text} (h : mark ∉ t) : splitAt mark t = [t] := by
  rw [splitAt_eq_splitOn, List.splitOn_eq_singleton h]

/-- **Texts are their own parts, one after the other, exactly when none of them has an occurrence.** -/
theorem flatMap_splitAt_eq_iff {texts : List Text} :
    texts.flatMap (splitAt mark) = texts ↔ ∀ t ∈ texts, mark ∉ t := by
  have hlength : ∀ texts : List Text, texts.length ≤ (texts.flatMap (splitAt mark)).length := by
    intro texts
    induction texts with
    | nil => exact Nat.le_refl 0
    | cons t rest ih =>
      rw [List.flatMap_cons, List.length_append, List.length_cons, length_splitAt]
      omega
  induction texts with
  | nil => simp
  | cons t rest ih =>
    rw [List.flatMap_cons, List.forall_mem_cons]
    constructor
    · intro h
      -- a text with an occurrence has two parts, and the texts after it have no fewer parts than they are
      have hnot : mark ∉ t := by
        intro hmem
        have hcount := List.count_pos_iff.mpr hmem
        have hparts := congrArg List.length h
        rw [List.length_append, List.length_cons, length_splitAt] at hparts
        have := hlength rest
        omega
      rw [splitAt_of_not_mem hnot, List.singleton_append] at h
      exact ⟨hnot, ih.mp (List.cons_eq_cons.mp h).2⟩
    · rintro ⟨hnot, hrest⟩
      rw [splitAt_of_not_mem hnot, ih.mpr hrest, List.singleton_append]

end Parts

/-! ## Lines -/

/-- A text without a line feed in it. -/
def OneLine (t : Text) : Prop := CodePoint.ofChar '\n' ∉ t

instance (t : Text) : Decidable t.OneLine := inferInstanceAs (Decidable (_ ∉ _))

theorem oneLine_append {t u : Text} : (t ++ u).OneLine ↔ t.OneLine ∧ u.OneLine := by
  unfold OneLine
  rw [List.mem_append, not_or]

/-- The parts of texts that are written as lines: those of each text, and an empty one behind the last. -/
theorem splitAt_lines (texts : List Text) :
    splitAt '\n' (texts.flatMap line) = texts.flatMap (splitAt '\n') ++ [[]] := by
  induction texts with
  | nil => rfl
  | cons t rest ih =>
    have hline : t.line ++ rest.flatMap line = t ++ CodePoint.ofChar '\n' :: rest.flatMap line := by
      simp [line]
    have hcut : splitAt '\n' (t ++ CodePoint.ofChar '\n' :: rest.flatMap line) =
        splitAt '\n' t ++ splitAt '\n' (rest.flatMap line) := by
      simp only [splitAt_eq_splitOn, List.splitOn_append_cons_self]
    rw [List.flatMap_cons, hline, hcut, ih, List.flatMap_cons, List.append_assoc]

/-- **Texts that are written as lines come back as they are exactly when each of them fits on one line.** -/
theorem splitAt_lines_eq_iff {texts : List Text} :
    splitAt '\n' (texts.flatMap line) = texts ++ [[]] ↔ ∀ t ∈ texts, t.OneLine := by
  rw [splitAt_lines, List.append_left_inj]
  exact flatMap_splitAt_eq_iff

/-! ## Forms of a text -/

theorem OneLine.trim {t : Text} (h : t.OneLine) : (trim t).OneLine := by
  obtain ⟨l, r, -, -, ht⟩ := exists_append_trim_append t
  rw [ht, oneLine_append, oneLine_append] at h
  exact h.2.1

/-- A code point that lower case adds is a small letter or a mark; none of these stands before the letter a. -/
theorem le_of_mem_lower {c d : CodePoint} (h : d ∈ c.lower) (hne : d ≠ c) : 0x61 ≤ d.val := by
  have htargets : ∀ run ∈ capitals, 0x61 ≤ run.target := by decide +kernel
  rcases CodePoint.lower_cases c with hdotted | ⟨run, hrun, hcovers, hlower⟩ | hself
  · have hparts : ∀ e ∈ Text.ofString "i\u0307", 0x61 ≤ e.val := by decide
    rw [hdotted] at h
    exact hparts d h
  · rw [hlower] at h
    rw [List.mem_singleton.mp h, CodePoint.val_lower hrun hcovers]
    exact Nat.le_trans (htargets run hrun) (Nat.le_add_right _ _)
  · rw [hself] at h
    exact absurd (List.mem_singleton.mp h) hne

theorem OneLine.lowerAfter {t : Text} (h : t.OneLine) (before : Text) : (lowerAfter before t).OneLine := by
  induction t generalizing before with
  | nil => exact List.not_mem_nil
  | cons c rest ih =>
    obtain ⟨hc, hrest⟩ : CodePoint.ofChar '\n' ≠ c ∧ OneLine rest := by
      unfold OneLine at h
      rw [List.mem_cons, not_or] at h
      exact h
    rw [lowerAfter_cons, oneLine_append]
    refine ⟨?_, ih hrest _⟩
    intro hmem
    rcases mem_lowerAt hmem with hfinal | hsmall | hlower
    · exact absurd hfinal (by decide)
    · exact absurd hsmall (by decide)
    · have hle := le_of_mem_lower hlower hc
      exact absurd hle (by decide)

/-- The key of a text on one line is on one line. -/
theorem OneLine.key {t : Text} (h : t.OneLine) : t.key.OneLine := h.trim.lowerAfter []

end Text
end IntentLint

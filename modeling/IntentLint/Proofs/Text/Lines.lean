import IntentLint.Text.Lines

/-!
# `Proofs.Text.Lines` — texts with their line ends rewritten

A carriage return is rewritten as a line feed, and the line feed behind it is dropped. All other code points stay,
in their order. So a run of code points that has no line ends is found in the rewritten text just where it was
before, and a run that takes all line ends is followed by the same text.
-/

namespace IntentLint
namespace Text

variable {c : CodePoint}

theorem unixLines_cons (h : c ≠ CodePoint.ofChar '\r') (rest : Text) :
    unixLines (c :: rest) = c :: unixLines rest := by
  unfold unixLines
  rw [unixLinesAfter, if_neg h, if_neg (by simp)]

/-- Where a text begins with a carriage return, the rewritten text begins with a line feed. -/
theorem exists_unixLines_return (rest : Text) :
    ∃ more, unixLines (CodePoint.ofChar '\r' :: rest) = CodePoint.ofChar '\n' :: more := by
  refine ⟨unixLinesAfter true rest, ?_⟩
  unfold unixLines
  rw [unixLinesAfter, if_pos rfl]

/-- The front of a rewritten text: a line feed in the place of a carriage return, or the code point that was there. -/
theorem unixLines_cons_cases (c : CodePoint) (rest : Text) :
    (c = CodePoint.ofChar '\r' ∧ ∃ more, unixLines (c :: rest) = CodePoint.ofChar '\n' :: more) ∨
      (c ≠ CodePoint.ofChar '\r' ∧ unixLines (c :: rest) = c :: unixLines rest) := by
  by_cases hc : c = CodePoint.ofChar '\r'
  · subst hc
    exact .inl ⟨rfl, exists_unixLines_return rest⟩
  · exact .inr ⟨hc, unixLines_cons hc rest⟩

/-- Line ends are left alone where there is no carriage return. -/
theorem unixLines_of_not_mem {t : Text} (h : CodePoint.ofChar '\r' ∉ t) : unixLines t = t := by
  induction t with
  | nil => rfl
  | cons c rest ih =>
    rw [List.mem_cons, not_or] at h
    rw [unixLines_cons (Ne.symm h.1), ih h.2]

theorem unixLines_eq_nil_iff {t : Text} : unixLines t = [] ↔ t = [] := by
  cases t with
  | nil => exact Iff.rfl
  | cons c rest =>
    refine ⟨fun h => ?_, fun h => absurd h (List.cons_ne_nil c rest)⟩
    rcases unixLines_cons_cases c rest with ⟨-, more, hmore⟩ | ⟨-, hcons⟩
    · cases hmore.symm.trans h
    · cases hcons.symm.trans h

theorem length_unixLinesAfter_le (afterReturn : Bool) (t : Text) :
    (unixLinesAfter afterReturn t).length ≤ t.length := by
  induction t generalizing afterReturn with
  | nil => exact Nat.le_refl 0
  | cons c rest ih =>
    unfold unixLinesAfter
    split
    · exact Nat.succ_le_succ (ih true)
    · split
      · exact Nat.le_succ_of_le (ih false)
      · exact Nat.succ_le_succ (ih false)

theorem length_unixLines_le (t : Text) : (unixLines t).length ≤ t.length := length_unixLinesAfter_le false t

/-! ## Runs at the front -/

section Runs

variable {p : CodePoint → Bool}

theorem takeWhile_unixLines (hfeed : p '\n' = false) (hreturn : p '\r' = false) (t : Text) :
    (unixLines t).takeWhile p = t.takeWhile p := by
  induction t with
  | nil => rfl
  | cons c rest ih =>
    rcases unixLines_cons_cases c rest with ⟨rfl, more, hmore⟩ | ⟨-, hcons⟩
    · rw [hmore, List.takeWhile_cons_of_neg (by rw [hfeed]; exact Bool.false_ne_true),
        List.takeWhile_cons_of_neg (by rw [hreturn]; exact Bool.false_ne_true)]
    · rw [hcons, List.takeWhile_cons, List.takeWhile_cons, ih]

theorem dropWhile_unixLines (hfeed : p '\n' = false) (hreturn : p '\r' = false) (t : Text) :
    (unixLines t).dropWhile p = unixLines (t.dropWhile p) := by
  induction t with
  | nil => rfl
  | cons c rest ih =>
    rcases unixLines_cons_cases c rest with ⟨rfl, more, hmore⟩ | ⟨-, hcons⟩
    · rw [List.dropWhile_cons_of_neg (by rw [hreturn]; exact Bool.false_ne_true), hmore,
        List.dropWhile_cons_of_neg (by rw [hfeed]; exact Bool.false_ne_true)]
    · rw [hcons, List.dropWhile_cons, List.dropWhile_cons, ih]
      split
      · rfl
      · rw [hcons]

/-- A run that takes all line ends stops at the same code point in both texts, and never between a carriage return
and its line feed. -/
theorem dropWhile_unixLinesAfter (hfeed : p '\n' = true) (hreturn : p '\r' = true) (afterReturn : Bool) (t : Text) :
    (unixLinesAfter afterReturn t).dropWhile p = unixLines (t.dropWhile p) := by
  induction t generalizing afterReturn with
  | nil => rfl
  | cons c rest ih =>
    unfold unixLinesAfter
    split
    · next hc =>
      rw [hc, List.dropWhile_cons_of_pos hfeed, List.dropWhile_cons_of_pos hreturn, ih]
    · next hc =>
      split
      · next hboth =>
        rw [hboth.1, List.dropWhile_cons_of_pos hfeed, ih]
      · rw [List.dropWhile_cons, List.dropWhile_cons, ih]
        split
        · rfl
        · rw [unixLines_cons hc]
          rfl

theorem isPrefixOf?_unixLines {word : Text} (hfeed : CodePoint.ofChar '\n' ∉ word)
    (hreturn : CodePoint.ofChar '\r' ∉ word) (t : Text) :
    word.isPrefixOf? (unixLines t) = (word.isPrefixOf? t).map unixLines := by
  induction word generalizing t with
  | nil => rfl
  | cons d word ih =>
    rw [List.mem_cons, not_or] at hfeed hreturn
    have hstep : ∀ (c : CodePoint) (s : Text),
        (d :: word).isPrefixOf? (c :: s) = if (d == c) = true then word.isPrefixOf? s else none := fun _ _ => rfl
    cases t with
    | nil => rfl
    | cons c rest =>
      rcases unixLines_cons_cases c rest with ⟨rfl, more, hmore⟩ | ⟨-, hcons⟩
      · rw [hmore, hstep, hstep, if_neg (by simpa using Ne.symm hfeed.1), if_neg (by simpa using Ne.symm hreturn.1)]
        rfl
      · rw [hcons, hstep, hstep, ih hfeed.2 hreturn.2]
        split <;> rfl

end Runs

end Text
end IntentLint

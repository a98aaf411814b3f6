import IntentLint.Text.Blank

/-!
# `Proofs.Text.Trim` — what trimming takes away

Trimming cuts a text into blanks, a middle part that is empty or has no blank at either end, and blanks. So a
text has an outer blank exactly when it starts or ends with one.
-/

namespace IntentLint
namespace Text

/-! ## Ends of a text -/

/-- The first code point of a text is a blank. -/
def StartsBlank (t : Text) : Prop := ∃ c, t.head? = some c ∧ c.isBlank = true

/-- The last code point of a text is a blank. -/
def EndsBlank (t : Text) : Prop := ∃ c, t.getLast? = some c ∧ c.isBlank = true

theorem not_endsBlank_nil : ¬ EndsBlank [] := by
  rintro ⟨c, h, -⟩
  cases h

theorem startsBlank_cons {c : CodePoint} {rest : Text} :
    StartsBlank (c :: rest) ↔ c.isBlank = true := by
  simp [StartsBlank]

theorem endsBlank_singleton {c : CodePoint} : EndsBlank [c] ↔ c.isBlank = true := by
  simp [EndsBlank]

theorem endsBlank_cons_cons {c d : CodePoint} {rest : Text} :
    EndsBlank (c :: d :: rest) ↔ EndsBlank (d :: rest) := by
  simp [EndsBlank]

/-! ## One end -/

/-- Trimming the start of a text drops blanks only. -/
theorem exists_append_trimStart (t : Text) :
    ∃ l : Text, (∀ c ∈ l, c.isBlank = true) ∧ t = l ++ trimStart t :=
  ⟨t.takeWhile CodePoint.isBlank, List.all_eq_true.mp List.all_takeWhile,
    List.takeWhile_append_dropWhile.symm⟩

theorem not_startsBlank_trimStart (t : Text) : ¬ StartsBlank (trimStart t) := by
  rintro ⟨c, hc, hb⟩
  have hnot := List.head?_dropWhile_not CodePoint.isBlank t
  unfold trimStart at hc
  rw [hc] at hnot
  simp [hb] at hnot

theorem trimStart_of_not_startsBlank {t : Text} (h : ¬ StartsBlank t) : trimStart t = t := by
  cases t with
  | nil => rfl
  | cons c rest =>
    rw [startsBlank_cons] at h
    unfold trimStart
    rw [List.dropWhile_cons_of_neg h]

/-- Trimming the end of a text drops blanks only. -/
theorem exists_trimEnd_append (t : Text) :
    ∃ r : Text, (∀ c ∈ r, c.isBlank = true) ∧ t = trimEnd t ++ r := by
  induction t with
  | nil => exact ⟨[], by simp, rfl⟩
  | cons c rest ih =>
    obtain ⟨r, hr, hrest⟩ := ih
    unfold trimEnd
    split
    · next hkept =>
      -- nothing is kept of the rest, so the rest is all blanks
      rw [hkept, List.nil_append] at hrest
      by_cases hc : c.isBlank = true
      · refine ⟨c :: r, ?_, by rw [if_pos hc, hrest]; rfl⟩
        intro d hd
        rcases List.mem_cons.mp hd with rfl | hd
        · exact hc
        · exact hr d hd
      · exact ⟨r, hr, by rw [if_neg hc, hrest]; rfl⟩
    · exact ⟨r, hr, congrArg (c :: ·) hrest⟩

theorem not_endsBlank_trimEnd (t : Text) : ¬ EndsBlank (trimEnd t) := by
  induction t with
  | nil => exact not_endsBlank_nil
  | cons c rest ih =>
    unfold trimEnd
    split
    · by_cases hc : c.isBlank = true
      · rw [if_pos hc]
        exact not_endsBlank_nil
      · rw [if_neg hc, endsBlank_singleton]
        exact hc
    · next hkept =>
      cases hk : trimEnd rest with
      | nil => exact absurd hk hkept
      | cons d kept =>
        rw [endsBlank_cons_cons, ← hk]
        exact ih

theorem trimEnd_of_not_endsBlank {t : Text} (h : ¬ EndsBlank t) : trimEnd t = t := by
  induction t with
  | nil => rfl
  | cons c rest ih =>
    unfold trimEnd
    cases rest with
    | nil =>
      rw [endsBlank_singleton] at h
      simp [trimEnd, h]
    | cons d rest =>
      rw [endsBlank_cons_cons] at h
      rw [ih h]

/-! ## Both ends -/

/-- **Trimming drops blanks from the two ends and nothing else.** -/
theorem exists_append_trim_append (t : Text) :
    ∃ l r : Text, (∀ c ∈ l, c.isBlank = true) ∧ (∀ c ∈ r, c.isBlank = true) ∧ t = l ++ (trim t ++ r) := by
  obtain ⟨l, hl, hstart⟩ := exists_append_trimStart t
  obtain ⟨r, hr, hend⟩ := exists_trimEnd_append (trimStart t)
  refine ⟨l, r, hl, hr, ?_⟩
  unfold trim
  rw [← hend]
  exact hstart

theorem not_endsBlank_trim (t : Text) : ¬ EndsBlank (trim t) := not_endsBlank_trimEnd (trimStart t)

theorem not_startsBlank_trim (t : Text) : ¬ StartsBlank (trim t) := by
  rintro ⟨c, hc, hb⟩
  obtain ⟨r, -, hr⟩ := exists_trimEnd_append (trimStart t)
  apply not_startsBlank_trimStart t
  refine ⟨c, ?_, hb⟩
  rw [hr, List.head?_append, show (trimEnd (trimStart t)).head? = some c from hc]
  rfl

theorem trim_of_not_blank {t : Text} (hs : ¬ StartsBlank t) (he : ¬ EndsBlank t) : trim t = t := by
  unfold trim
  rw [trimStart_of_not_startsBlank hs, trimEnd_of_not_endsBlank he]

theorem trimEnd_of_blanks {r : Text} (hr : ∀ c ∈ r, c.isBlank = true) : trimEnd r = [] := by
  induction r with
  | nil => rfl
  | cons c rest ih =>
    unfold trimEnd
    rw [ih fun d hd => hr d (List.mem_cons_of_mem _ hd)]
    exact if_pos (hr c List.mem_cons_self)

theorem trimEnd_append_blanks {r : Text} (hr : ∀ c ∈ r, c.isBlank = true) (t : Text) :
    trimEnd (t ++ r) = trimEnd t := by
  induction t with
  | nil => exact trimEnd_of_blanks hr
  | cons c rest ih =>
    show trimEnd (c :: (rest ++ r)) = trimEnd (c :: rest)
    unfold trimEnd
    rw [ih]

/-- **What stands between blanks is what trimming leaves**, when it has no blank at either end itself. -/
theorem trim_between_blanks {l m r : Text} (hl : ∀ c ∈ l, c.isBlank = true) (hr : ∀ c ∈ r, c.isBlank = true)
    (hs : ¬ StartsBlank m) (he : ¬ EndsBlank m) : trim (l ++ (m ++ r)) = m := by
  have hfront : trimStart (l ++ (m ++ r)) = trimStart (m ++ r) := List.dropWhile_append_of_pos hl
  unfold trim
  rw [hfront]
  cases m with
  | nil =>
    have hnothing : trimStart (r ++ []) = trimStart [] := List.dropWhile_append_of_pos hr
    rw [List.append_nil] at hnothing
    show trimEnd (trimStart r) = []
    rw [hnothing]
    rfl
  | cons c rest =>
    have hkept : ¬ StartsBlank (c :: rest ++ r) := by
      show ¬ StartsBlank (c :: (rest ++ r))
      rw [startsBlank_cons] at hs ⊢
      exact hs
    rw [trimStart_of_not_startsBlank hkept, trimEnd_append_blanks hr, trimEnd_of_not_endsBlank he]

/-- Blanks put around a text are taken away again. -/
theorem trim_append_blanks {l r : Text} (hl : ∀ c ∈ l, c.isBlank = true) (hr : ∀ c ∈ r, c.isBlank = true)
    (t : Text) : trim (l ++ (t ++ r)) = trim t := by
  obtain ⟨l', r', hl', hr', ht⟩ := exists_append_trim_append t
  have hwhole : l ++ (t ++ r) = (l ++ l') ++ (trim t ++ (r' ++ r)) :=
    calc l ++ (t ++ r) = l ++ ((l' ++ (trim t ++ r')) ++ r) := by rw [← ht]
      _ = (l ++ l') ++ (trim t ++ (r' ++ r)) := by simp only [List.append_assoc]
  rw [hwhole]
  apply trim_between_blanks
  · exact fun c hc => (List.mem_append.mp hc).elim (hl c) (hl' c)
  · exact fun c hc => (List.mem_append.mp hc).elim (hr' c) (hr c)
  · exact not_startsBlank_trim t
  · exact not_endsBlank_trim t

/-- Trimming leaves nothing to trim. -/
theorem trim_trim (t : Text) : trim (trim t) = trim t :=
  trim_of_not_blank (not_startsBlank_trim t) (not_endsBlank_trim t)

theorem hasOuterBlank_trim (t : Text) : (trim t).hasOuterBlank = false := by
  unfold hasOuterBlank
  rw [trim_trim]
  exact decide_eq_false (not_not_intro rfl)

/-- **A text has an outer blank exactly when its first or its last code point is a blank.** -/
theorem hasOuterBlank_iff {t : Text} : t.hasOuterBlank = true ↔ StartsBlank t ∨ EndsBlank t := by
  unfold hasOuterBlank
  rw [decide_eq_true_iff]
  constructor
  · intro hne
    apply Classical.byContradiction
    intro hcon
    rw [not_or] at hcon
    exact hne (trim_of_not_blank hcon.1 hcon.2).symm
  · rintro (hs | he) heq
    · exact not_startsBlank_trim t (heq ▸ hs)
    · exact not_endsBlank_trim t (heq ▸ he)

end Text
end IntentLint

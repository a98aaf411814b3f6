import IntentLint.Proofs.Text.Trim
import IntentLint.Text.Case

/-!
# `Proofs.Text.Lowercase` — lower case, and the blanks around a text

What a code point becomes in lower case stays as it is from then on (`lower_of_mem_lower`): no small letter of the
case table is a capital of it. So a text that is in lower case is its own lower-case form, although a sigma looks at
its neighbours (`lower_lower`).

Blanks do not take part. A blank has no other form and nothing else becomes one, and where a sigma looks for a cased
letter a blank is either passed over, as the byte order mark is, or it is no cased letter, just as there is none
behind the end of the text. So a text can be trimmed before it is put in lower case or after (`trim_lower`).

Contents: the case table; code points; sigmas; texts in lower case; blanks around a text.
-/

namespace IntentLint

/-! ## The case table -/

/-- Two classes without a common number have no common code point. -/
theorem Ranges.not_contains_of_apart {ranges others : Ranges} {c : CodePoint}
    (hapart : ∀ r ∈ ranges, ∀ s ∈ others, r.2 < s.1 ∨ s.2 < r.1) (hc : ranges.contains c = true) :
    others.contains c = false := by
  rw [Bool.eq_false_iff]
  intro hother
  obtain ⟨r, hr, hlow, hhigh⟩ := Ranges.contains_iff.mp hc
  obtain ⟨s, hs, hlow', hhigh'⟩ := Ranges.contains_iff.mp hother
  have := hapart r hr s hs
  omega

namespace CaseRun

theorem covers_iff {run : CaseRun} {n : Nat} :
    run.covers n = true ↔ run.first ≤ n ∧ n ≤ run.last ∧ (n - run.first) % run.stride = 0 := by
  simp only [covers, Bool.and_eq_true, decide_eq_true_iff, beq_iff_eq, and_assoc]

/-- No small letter of a run is a capital of the other: they lie elsewhere, or the capitals are every other code
point and the small letters, which are one or are every other code point as well, fall between them. -/
def apart (run other : CaseRun) : Bool :=
  other.last < run.target || run.lower run.last < other.first ||
    (other.stride == 2 && (run.stride == 2 || run.last == run.first) && run.target % 2 != other.first % 2)

theorem not_covers_of_apart {run other : CaseRun} (h : run.apart other = true) {n : Nat}
    (hn : run.covers n = true) : other.covers (run.lower n) = false := by
  rw [Bool.eq_false_iff]
  intro hother
  obtain ⟨hfirst, hlast, hstep⟩ := covers_iff.mp hn
  obtain ⟨hfirst', hlast', hstep'⟩ := covers_iff.mp hother
  simp only [apart, Bool.or_eq_true, Bool.and_eq_true, decide_eq_true_iff, beq_iff_eq, bne_iff_ne] at h
  simp only [lower] at hfirst' hlast' hstep'
  rcases h with (hbehind | hbefore) | ⟨⟨htwo, hstride | hone⟩, hparity⟩
  · omega
  · simp only [lower] at hbefore
    omega
  · rw [hstride] at hstep
    rw [htwo] at hstep'
    omega
  · rw [htwo] at hstep'
    omega

end CaseRun

theorem capitals_apart : ∀ run ∈ capitals, capitals.all run.apart = true := by decide +kernel

/-- The small letters are code points, and the dotted capital is none of them. -/
theorem target_of_mem_capitals : ∀ run ∈ capitals,
    run.lower run.last < 0x110000 ∧ (run.lower run.last < 0x130 ∨ 0x130 < run.target) := by decide +kernel

theorem capitals_apart_blanks : ∀ run ∈ capitals, ∀ r ∈ blanks,
    (run.last < r.1 ∨ r.2 < run.first) ∧ (run.lower run.last < r.1 ∨ r.2 < run.target) := by decide +kernel

theorem blanks_apart_cased : ∀ r ∈ blanks, ∀ s ∈ cased, r.2 < s.1 ∨ s.2 < r.1 := by decide +kernel

/-! ## Code points -/

namespace CodePoint

variable {c d : CodePoint}

/-- The three ways to the lower-case form of a code point. -/
theorem lower_cases (c : CodePoint) :
    c.lower = Text.ofString "i\u0307" ∨
      (∃ run ∈ capitals, run.covers c.val = true ∧ c.lower = [ofNat (run.lower c.val)]) ∨ c.lower = [c] := by
  unfold lower
  split
  · exact .inl rfl
  · split
    · next run hrun =>
      refine .inr (.inl ⟨run, List.mem_of_find?_eq_some hrun, ?_, rfl⟩)
      have hcovers := List.find?_some hrun
      exact hcovers
    · exact .inr (.inr rfl)

theorem lower_of_not_covered (hdotted : c.val ≠ 0x130) (h : ∀ run ∈ capitals, run.covers c.val = false) :
    c.lower = [c] := by
  have hnone : capitals.find? (fun run => run.covers c.val) = none := by
    rw [List.find?_eq_none]
    intro run hrun
    rw [h run hrun]
    exact Bool.false_ne_true
  unfold lower
  rw [if_neg hdotted, hnone]

theorem val_lower {run : CaseRun} (hrun : run ∈ capitals) (hc : run.covers c.val = true) :
    (ofNat (run.lower c.val)).val = run.target + (c.val - run.first) := by
  obtain ⟨-, hlast, -⟩ := CaseRun.covers_iff.mp hc
  have hbound := (target_of_mem_capitals run hrun).1
  simp only [CaseRun.lower] at hbound
  exact val_ofNat (by simp only [CaseRun.lower]; omega)

/-- **Lower case does not change what it has made.** -/
theorem lower_of_mem_lower (h : d ∈ c.lower) : d.lower = [d] := by
  rcases lower_cases c with hdotted | ⟨run, hrun, hcovers, hlower⟩ | hself
  · have hparts : ∀ e ∈ Text.ofString "i\u0307", e.lower = [e] := by decide +kernel
    rw [hdotted] at h
    exact hparts d h
  · rw [hlower] at h
    rw [List.mem_singleton.mp h]
    have hval := val_lower hrun hcovers
    obtain ⟨-, hlast, -⟩ := CaseRun.covers_iff.mp hcovers
    apply lower_of_not_covered
    · have hdotted := (target_of_mem_capitals run hrun).2
      simp only [CaseRun.lower] at hdotted
      omega
    · intro other hother
      rw [hval]
      have hapart := List.all_eq_true.mp (capitals_apart run hrun) other hother
      exact CaseRun.not_covers_of_apart hapart hcovers
  · rw [hself] at h
    rw [List.mem_singleton.mp h]
    exact hself

theorem lower_ne_nil (c : CodePoint) : c.lower ≠ [] := by
  rcases lower_cases c with h | ⟨run, -, -, h⟩ | h <;> rw [h] <;> exact List.cons_ne_nil _ _

theorem lower_of_isBlank (h : c.isBlank = true) : c.lower = [c] := by
  obtain ⟨r, hr, hlow, hhigh⟩ := Ranges.contains_iff.mp h
  apply lower_of_not_covered
  · have hdotted : ∀ r ∈ blanks, 0x130 < r.1 ∨ r.2 < 0x130 := by decide
    have := hdotted r hr
    omega
  · intro run hrun
    rw [Bool.eq_false_iff]
    intro hcovers
    obtain ⟨hfirst, hlast, -⟩ := CaseRun.covers_iff.mp hcovers
    have := (capitals_apart_blanks run hrun r hr).1
    omega

/-- No code point becomes a blank that is none. -/
theorem isBlank_of_mem_lower (hc : c.isBlank = false) (h : d ∈ c.lower) : d.isBlank = false := by
  rcases lower_cases c with hdotted | ⟨run, hrun, hcovers, hlower⟩ | hself
  · have hparts : ∀ e ∈ Text.ofString "i\u0307", e.isBlank = false := by decide
    rw [hdotted] at h
    exact hparts d h
  · rw [hlower] at h
    rw [List.mem_singleton.mp h, Bool.eq_false_iff]
    intro hblank
    obtain ⟨r, hr, hlow, hhigh⟩ := Ranges.contains_iff.mp hblank
    rw [val_lower hrun hcovers] at hlow hhigh
    obtain ⟨hfirst, hlast, -⟩ := CaseRun.covers_iff.mp hcovers
    have hapart := (capitals_apart_blanks run hrun r hr).2
    simp only [CaseRun.lower] at hapart
    omega
  · rw [hself] at h
    rw [List.mem_singleton.mp h]
    exact hc

theorem not_isCased_of_isBlank (h : c.isBlank = true) : c.isCased = false :=
  Ranges.not_contains_of_apart blanks_apart_cased h

end CodePoint

namespace Text

variable {l r t : Text}

/-! ## Sigmas -/

theorem startsCased_cons (c : CodePoint) (rest : Text) :
    startsCased (c :: rest) = if c.isCaseIgnorable then startsCased rest else c.isCased := by
  by_cases hc : c.isCaseIgnorable = true
  · unfold startsCased
    rw [if_pos hc, List.dropWhile_cons_of_pos hc]
  · unfold startsCased
    rw [if_neg hc, List.dropWhile_cons_of_neg hc]

/-- **Blanks behind a text say nothing about the case of a neighbour.** -/
theorem startsCased_append_blanks (hr : ∀ c ∈ r, c.isBlank = true) (t : Text) :
    startsCased (t ++ r) = startsCased t := by
  induction t with
  | nil =>
    show startsCased r = false
    induction r with
    | nil => rfl
    | cons c rest ih =>
      rw [startsCased_cons, CodePoint.not_isCased_of_isBlank (hr c List.mem_cons_self)]
      rw [ih fun d hd => hr d (List.mem_cons_of_mem _ hd), ite_self]
  | cons c rest ih =>
    show startsCased (c :: (rest ++ r)) = startsCased (c :: rest)
    rw [startsCased_cons, startsCased_cons, ih]

/-- What a code point becomes between two texts, the first of them given backwards. -/
def lowerAt (before : Text) (c : CodePoint) (after : Text) : Text :=
  if c = 'Σ' then [smallSigma before after] else c.lower

theorem lowerAfter_cons (before : Text) (c : CodePoint) (rest : Text) :
    lowerAfter before (c :: rest) = lowerAt before c rest ++ lowerAfter (c :: before) rest := rfl

theorem lowerAt_between_blanks (hl : ∀ c ∈ l, c.isBlank = true) (hr : ∀ c ∈ r, c.isBlank = true)
    (before : Text) (c : CodePoint) (after : Text) :
    lowerAt (before ++ l) c (after ++ r) = lowerAt before c after := by
  unfold lowerAt smallSigma
  rw [startsCased_append_blanks hl, startsCased_append_blanks hr]

theorem mem_lowerAt {before after : Text} {c d : CodePoint} (h : d ∈ lowerAt before c after) :
    d = CodePoint.ofChar 'ς' ∨ d = CodePoint.ofChar 'σ' ∨ d ∈ c.lower := by
  unfold lowerAt at h
  split at h
  · rw [List.mem_singleton.mp h]
    unfold smallSigma
    split
    · exact .inl rfl
    · exact .inr (.inl rfl)
  · exact .inr (.inr h)

theorem lowerAt_ne_nil (before : Text) (c : CodePoint) (after : Text) : lowerAt before c after ≠ [] := by
  unfold lowerAt
  split
  · exact List.cons_ne_nil _ _
  · exact c.lower_ne_nil

theorem isBlank_of_mem_lowerAt {before after : Text} {c d : CodePoint} (hc : c.isBlank = false)
    (h : d ∈ lowerAt before c after) : d.isBlank = false := by
  rcases mem_lowerAt h with rfl | rfl | hd
  · decide
  · decide
  · exact CodePoint.isBlank_of_mem_lower hc hd

/-! ## Texts in lower case -/

/-- A text in lower case: each code point is its own lower-case form. -/
def Lowered (t : Text) : Prop := ∀ c ∈ t, c.lower = [c]

theorem lowered_of_blanks (h : ∀ c ∈ t, c.isBlank = true) : Lowered t :=
  fun c hc => CodePoint.lower_of_isBlank (h c hc)

theorem lowerAt_of_lower {c : CodePoint} (h : c.lower = [c]) (before after : Text) :
    lowerAt before c after = [c] := by
  have hsigma : c ≠ CodePoint.ofChar 'Σ' := by
    rintro rfl
    revert h
    decide +kernel
  unfold lowerAt
  rw [if_neg hsigma, h]

/-- In front of a text, what is in lower case is left alone, and the sigmas of the text have it before them. -/
theorem lowerAfter_lowered_append (hl : Lowered l) (before t : Text) :
    lowerAfter before (l ++ t) = l ++ lowerAfter (l.reverse ++ before) t := by
  induction l generalizing before with
  | nil => rfl
  | cons c rest ih =>
    have hrest : Lowered rest := fun d hd => hl d (List.mem_cons_of_mem _ hd)
    show lowerAfter before (c :: (rest ++ t)) = c :: (rest ++ lowerAfter ((c :: rest).reverse ++ before) t)
    rw [lowerAfter_cons, lowerAt_of_lower (hl c List.mem_cons_self), ih hrest, List.reverse_cons,
      List.append_assoc]
    rfl

theorem lowerAfter_of_lowered (h : Lowered t) (before : Text) : lowerAfter before t = t := by
  have happend := lowerAfter_lowered_append h before []
  rw [List.append_nil] at happend
  rw [happend]
  exact List.append_nil t

theorem lowered_lowerAfter (before t : Text) : Lowered (lowerAfter before t) := by
  induction t generalizing before with
  | nil => exact fun c hc => absurd hc List.not_mem_nil
  | cons c rest ih =>
    intro d hd
    rw [lowerAfter_cons, List.mem_append] at hd
    rcases hd with hd | hd
    · rcases mem_lowerAt hd with rfl | rfl | hmem
      · decide +kernel
      · decide +kernel
      · exact CodePoint.lower_of_mem_lower hmem
    · exact ih _ d hd

/-- **A text in lower case is its own lower-case form.** -/
theorem lower_lower (t : Text) : lower (lower t) = lower t :=
  lowerAfter_of_lowered (lowered_lowerAfter [] t) []

/-! ## Blanks around a text -/

/-- The blanks behind a text are left alone, and so are the sigmas before them, whatever blanks stand in front. -/
theorem lowerAfter_between_blanks (hl : ∀ c ∈ l, c.isBlank = true) (hr : ∀ c ∈ r, c.isBlank = true)
    (before t : Text) : lowerAfter (before ++ l) (t ++ r) = lowerAfter before t ++ r := by
  induction t generalizing before with
  | nil => exact lowerAfter_of_lowered (lowered_of_blanks hr) _
  | cons c rest ih =>
    show lowerAfter (before ++ l) (c :: (rest ++ r)) = _
    rw [lowerAfter_cons, lowerAfter_cons, lowerAt_between_blanks hl hr, List.append_assoc]
    exact congrArg _ (ih (c :: before))

/-- **Blanks around a text keep their form, and the text in between keeps its own.** -/
theorem lower_between_blanks (hl : ∀ c ∈ l, c.isBlank = true) (hr : ∀ c ∈ r, c.isBlank = true) (t : Text) :
    lower (l ++ (t ++ r)) = l ++ (lower t ++ r) := by
  have hreverse : ∀ c ∈ l.reverse, c.isBlank = true := fun c hc => hl c (List.mem_reverse.mp hc)
  unfold lower
  rw [lowerAfter_lowered_append (lowered_of_blanks hl), List.append_nil]
  exact congrArg _ (lowerAfter_between_blanks hreverse hr [] t)

theorem not_startsBlank_lower (h : ¬ StartsBlank t) : ¬ StartsBlank (lower t) := by
  cases t with
  | nil => exact h
  | cons c rest =>
    rw [startsBlank_cons, Bool.not_eq_true] at h
    obtain ⟨d, more, hd⟩ := List.exists_cons_of_ne_nil (lowerAt_ne_nil [] c rest)
    have hmem : d ∈ lowerAt [] c rest := by
      rw [hd]
      exact List.mem_cons_self
    show ¬ StartsBlank (lowerAt [] c rest ++ lowerAfter [c] rest)
    rw [hd, List.cons_append, startsBlank_cons, isBlank_of_mem_lowerAt h hmem]
    exact Bool.false_ne_true

theorem lowerAfter_ne_nil (h : t ≠ []) (before : Text) : lowerAfter before t ≠ [] := by
  cases t with
  | nil => exact absurd rfl h
  | cons c rest =>
    rw [lowerAfter_cons]
    exact List.append_ne_nil_of_left_ne_nil (lowerAt_ne_nil before c rest) _

theorem not_endsBlank_lowerAfter (h : ¬ EndsBlank t) (before : Text) : ¬ EndsBlank (lowerAfter before t) := by
  induction t generalizing before with
  | nil => exact h
  | cons c rest ih =>
    rw [lowerAfter_cons]
    cases rest with
    | nil =>
      -- the last code point is no blank, so nothing that it becomes is one
      rw [endsBlank_singleton, Bool.not_eq_true] at h
      rintro ⟨d, hd, hblank⟩
      have hmem : d ∈ lowerAt before c [] := by
        have := List.mem_of_getLast? hd
        rwa [show lowerAfter (c :: before) [] = [] from rfl, List.append_nil] at this
      rw [isBlank_of_mem_lowerAt h hmem] at hblank
      cases hblank
    | cons d more =>
      rw [endsBlank_cons_cons] at h
      have hne := lowerAfter_ne_nil (List.cons_ne_nil d more) (c :: before)
      rintro ⟨e, he, hblank⟩
      rw [List.getLast?_append, List.getLast?_eq_some_getLast hne, Option.some_or,
        ← List.getLast?_eq_some_getLast hne] at he
      exact ih h (c :: before) ⟨e, he, hblank⟩

/-- **A text may be trimmed before it is put in lower case or after.** -/
theorem trim_lower (t : Text) : trim (lower t) = lower (trim t) := by
  obtain ⟨l, r, hl, hr, ht⟩ := exists_append_trim_append t
  have hstart := not_startsBlank_lower (not_startsBlank_trim t)
  have hend : ¬ EndsBlank (lower (trim t)) := not_endsBlank_lowerAfter (not_endsBlank_trim t) []
  calc trim (lower t) = trim (lower (l ++ (trim t ++ r))) := by rw [← ht]
    _ = trim (l ++ (lower (trim t) ++ r)) := by rw [lower_between_blanks hl hr]
    _ = lower (trim t) := trim_between_blanks hl hr hstart hend

end Text
end IntentLint

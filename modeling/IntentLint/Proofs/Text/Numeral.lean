import IntentLint.Text.Basic

/-!
# `Proofs.Text.Numeral` — numerals as they are written

A number is written as a row of digits, with a minus sign before it where it is below zero. The row denotes the
number, and only the row of zero begins with a zero.
-/

namespace IntentLint
namespace Text

/-- The numeral of a number denotes the number. -/
theorem digitsValue_ofNat (n : Nat) : digitsValue (ofNat n) = n := by
  have hfold : digitsValue (ofNat n) = Nat.ofDigitChars 10 (Nat.toDigits 10 n) 0 := by
    rw [digitsValue, ofNat, List.foldl_map, Nat.ofDigitChars_eq_foldl]
    rfl
  rw [hfold, Nat.ofDigitChars_toDigits (by decide) (by decide)]

theorem isDigit_of_mem_ofNat {n : Nat} {c : CodePoint} (h : c ∈ ofNat n) : c.isDigit = true := by
  obtain ⟨d, hd, rfl⟩ := List.mem_map.mp h
  have hdigit := Nat.isDigit_of_mem_toDigits (by decide) (by decide) hd
  simp only [Char.isDigit, Bool.and_eq_true, decide_eq_true_eq] at hdigit
  rw [CodePoint.isDigit, CodePoint.val_ofChar, Bool.and_eq_true]
  exact ⟨decide_eq_true hdigit.1, decide_eq_true hdigit.2⟩

/-- No digit is half of a surrogate pair. -/
theorem not_surrogate_of_isDigit {c : CodePoint} (h : c.isDigit = true) : c.isSurrogate = false := by
  simp only [CodePoint.isDigit, Bool.and_eq_true, decide_eq_true_eq] at h
  rw [CodePoint.isSurrogate, Bool.and_eq_false_iff]
  exact .inl (decide_eq_false (by omega))

/-- Only zero has a numeral that begins with a zero. -/
theorem head_ofNat {n : Nat} (h : n ≠ 0) : ∃ c rest, ofNat n = c :: rest ∧ c ≠ CodePoint.ofChar '0' := by
  have hdigits : ∃ d rest, Nat.toDigits 10 n = d :: rest ∧ d ≠ '0' := by
    induction n using Nat.strongRecOn with
    | ind n ih =>
      by_cases hsmall : n < 10
      · exact ⟨n.digitChar, [], Nat.toDigits_of_lt_base hsmall, fun hzero => h (Nat.digitChar_eq_zero.mp hzero)⟩
      · obtain ⟨d, rest, hrest, hd⟩ := ih (n / 10) (by omega) (by omega)
        refine ⟨d, rest ++ [(n % 10).digitChar], ?_, hd⟩
        rw [Nat.toDigits_of_base_le (by decide) (by omega), hrest, List.cons_append]
  obtain ⟨d, rest, hrest, hd⟩ := hdigits
  refine ⟨CodePoint.ofChar d, rest.map CodePoint.ofChar, by rw [ofNat, hrest, List.map_cons], ?_⟩
  intro heq
  exact hd (Char.toNat_inj.mp (congrArg CodePoint.val heq))

/-- A numeral begins with a digit, or with a minus sign. -/
theorem head_ofInt (n : Int) :
    ∃ c more, ofInt n = c :: more ∧ (c = CodePoint.ofChar '-' ∧ n < 0 ∨ c.isDigit = true ∧ 0 ≤ n) := by
  unfold ofInt
  by_cases hneg : n < 0
  · rw [if_pos hneg]
    exact ⟨_, _, rfl, .inl ⟨rfl, hneg⟩⟩
  · rw [if_neg hneg]
    have hne : ofNat n.natAbs ≠ [] := fun hnil => Nat.toDigits_ne_nil (List.map_eq_nil_iff.mp hnil)
    obtain ⟨c, more, hcons⟩ := List.exists_cons_of_ne_nil hne
    refine ⟨c, more, hcons, .inr ⟨?_, by omega⟩⟩
    apply isDigit_of_mem_ofNat
    rw [hcons]
    exact List.mem_cons_self

end Text
end IntentLint

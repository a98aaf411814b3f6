import IntentLint.Json.Decode

/-!
# `Proofs.Json.Units` — a text between quotes, one unit at a time

A scanner reads a text between quotes in units. A unit is a code point that stands for itself, an escape of one
letter or a numbered escape; a quote ends the text, and everything else is a fault. Here is what the scanner does at
each kind of unit, so that a proof can follow it without looking into it.
-/

namespace IntentLint
namespace Json

/-! ## Numbered escapes -/

/-- The number that so many hexadecimal digits write behind the digits of `n`, and the text after them. -/
def hexDigits? : Nat → Nat → Text → Option (Nat × Text)
  | 0, n, t => some (n, t)
  | _ + 1, _, [] => none
  | count + 1, n, c :: rest => c.hexValue?.bind fun d => hexDigits? count (n * 16 + d) rest

/-- The code point that four digits number, if they come first and something comes after them. -/
def numbered? (t : Text) : Option (CodePoint × Text) :=
  (hexDigits? 4 0 t).bind fun (n, rest) => if rest = [] then none else some (CodePoint.ofNat n, rest)

theorem numbered?_of_digits {h₁ h₂ h₃ h₄ next : CodePoint} (rest : Text) :
    numbered? (h₁ :: h₂ :: h₃ :: h₄ :: next :: rest) =
      (ofHexDigits? h₁ h₂ h₃ h₄).map fun p => (p, next :: rest) := by
  simp only [numbered?, hexDigits?, ofHexDigits?]
  cases h₁.hexValue? with
  | none => rfl
  | some a =>
    cases h₂.hexValue? with
    | none => rfl
    | some b =>
      cases h₃.hexValue? with
      | none => rfl
      | some c =>
        cases h₄.hexValue? with
        | none => rfl
        | some d =>
          simp only [Option.bind_some, Option.map_some, Nat.zero_mul, Nat.zero_add]
          rw [if_neg (List.cons_ne_nil next rest)]

theorem length_of_hexDigits? {count n m : Nat} {t rest : Text} (h : hexDigits? count n t = some (m, rest)) :
    t.length = rest.length + count := by
  induction count generalizing n t with
  | zero =>
    cases h
    rfl
  | succ count ih =>
    cases t with
    | nil => cases h
    | cons c t =>
      obtain ⟨d, -, hd⟩ := Option.bind_eq_some_iff.mp h
      rw [List.length_cons, ih hd]
      omega

theorem length_of_numbered? {p : CodePoint} {t rest : Text} (h : numbered? t = some (p, rest)) :
    rest.length ≤ t.length := by
  unfold numbered? at h
  obtain ⟨⟨n, left⟩, hread, hleft⟩ := Option.bind_eq_some_iff.mp h
  have hlength := length_of_hexDigits? hread
  simp only at hleft
  split at hleft
  · cases hleft
  · cases hleft
    omega

theorem numbered?_of_short {t : Text} (h : t.length < 5) : numbered? t = none := by
  unfold numbered?
  rw [Option.bind_eq_none_iff]
  rintro ⟨n, rest⟩ hread
  have hlength := length_of_hexDigits? hread
  exact if_pos (List.length_eq_zero_iff.mp (by omega))

/-! ## Units -/

theorem scanUnits_quote (opening rest : Text) :
    scanUnits opening (CodePoint.ofChar '"' :: rest) = .ok ([], rest) := by
  rw [scanUnits.eq_def]
  exact if_pos rfl

theorem scanUnits_numbered (opening t : Text) :
    scanUnits opening (CodePoint.ofChar '\\' :: CodePoint.ofChar 'u' :: t) =
      match numbered? t with
      | some (p, rest) => (scanUnits opening rest).map fun (units, after) => (⟨p, true⟩ :: units, after)
      | none => .error (.malformed .badNumberedEscape (CodePoint.ofChar 'u' :: t)) := by
  rw [scanUnits.eq_def]
  simp only
  rw [if_neg (by decide), if_pos trivial, if_pos trivial]
  split
  · next h₁ h₂ h₃ h₄ next rest =>
    rw [numbered?_of_digits]
    cases ofHexDigits? h₁ h₂ h₃ h₄ <;> rfl
  · next hshort =>
    have hlength : t.length < 5 := by
      match t, hshort with
      | [], _ | [_], _ | [_, _], _ | [_, _, _], _ | [_, _, _, _], _ => simp
      | a :: b :: c :: d :: next :: rest, hshort => exact absurd rfl (hshort a b c d next rest)
    rw [numbered?_of_short hlength]

theorem scanUnits_letter {e p : CodePoint} (hnumbered : e ≠ CodePoint.ofChar 'u')
    (h : letterEscape? e = some p) (opening rest : Text) :
    scanUnits opening (CodePoint.ofChar '\\' :: e :: rest) =
      (scanUnits opening rest).map fun (units, after) => (⟨p, false⟩ :: units, after) := by
  rw [scanUnits.eq_def]
  simp only
  rw [if_neg (by decide), if_pos trivial, if_neg hnumbered, h]

theorem scanUnits_plain {c : CodePoint} (hquote : c ≠ CodePoint.ofChar '"') (hslash : c ≠ CodePoint.ofChar '\\')
    (hcontrol : ¬ c.val < 0x20) (opening rest : Text) :
    scanUnits opening (c :: rest) =
      (scanUnits opening rest).map fun (units, after) => (⟨c, false⟩ :: units, after) := by
  rw [scanUnits.eq_def]
  simp only
  rw [if_neg hquote, if_neg hslash, if_neg (by omega)]

/-! ## Faults -/

theorem scanUnits_badEscape {e : CodePoint} (hnumbered : e ≠ CodePoint.ofChar 'u')
    (h : letterEscape? e = none) (opening rest : Text) :
    scanUnits opening (CodePoint.ofChar '\\' :: e :: rest) =
      .error (.malformed .badEscape (CodePoint.ofChar '\\' :: e :: rest)) := by
  rw [scanUnits.eq_def]
  simp only
  rw [if_neg (by decide), if_pos trivial, if_neg hnumbered, h]

theorem scanUnits_control {c : CodePoint} (hcontrol : c.val < 0x20) (opening rest : Text) :
    scanUnits opening (c :: rest) = .error (.malformed .controlCharacter (c :: rest)) := by
  have hquote : c ≠ CodePoint.ofChar '"' := by
    rintro rfl
    exact absurd hcontrol (by decide)
  have hslash : c ≠ CodePoint.ofChar '\\' := by
    rintro rfl
    exact absurd hcontrol (by decide)
  rw [scanUnits.eq_def]
  simp only
  rw [if_neg hquote, if_neg hslash, if_pos (by omega)]

end Json
end IntentLint

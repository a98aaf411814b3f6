import IntentLint.Proofs.Json.Digits

/-!
# `Proofs.Json.Bound` — the bound on nested calls

Arrays and objects are scanned with a bound on nested calls. The bound is there for the definition alone: a scanner
hands on a shorter text, but for an array that calls for its first item, and so twice the length of the text is
more than enough. Two bounds that are enough give the same (`scanValue_bound`), so a document may be scanned with any
of them.
-/

namespace IntentLint
namespace Json

variable {b b' : Nat}

theorem length_of_after? {mark : CodePoint} {t rest : Text} (h : after? mark t = some rest) :
    rest.length < t.length := by
  cases t with
  | nil => cases h
  | cons c t =>
    rw [after?] at h
    by_cases hc : c = mark
    · rw [if_pos hc] at h
      cases h
      exact Nat.lt_succ_self _
    · rw [if_neg hc] at h
      cases h

theorem length_skipSpace_le (t : Text) : (skipSpace t).length ≤ t.length := (skipSpace_suffix t).length_le

/-- Behind a mark, and behind the blanks before and after it, there is less text. -/
theorem length_of_marked {mark : CodePoint} {t rest next : Text} (hrest : rest.length ≤ t.length)
    (h : after? mark (skipSpace rest) = some next) : (skipSpace next).length < t.length := by
  have hnext := length_of_after? h
  have := length_skipSpace_le rest
  have := length_skipSpace_le next
  omega

/-! ## One call -/

theorem scanValue_bound_succ {t : Text}
    (hitems : ∀ s : Text, s.length < t.length → scanItems b s = scanItems b' s)
    (hmembers : ∀ s : Text, s.length < t.length → scanMembers b s = scanMembers b' s) :
    scanValue (b + 1) t = scanValue (b' + 1) t := by
  cases t with
  | nil => rw [scanValue, scanValue]
  | cons c rest =>
    have hspace : (skipSpace rest).length < (c :: rest).length := Nat.lt_succ_of_le (length_skipSpace_le rest)
    rw [scanValue, scanValue, hitems _ hspace, hmembers _ hspace]

theorem scanItems_bound_succ {t : Text} (hvalue : scanValue b t = scanValue b' t)
    (hitems : ∀ s : Text, s.length < t.length → scanItems b s = scanItems b' s) :
    scanItems (b + 1) t = scanItems (b' + 1) t := by
  have hread := (within_scan b').1 t
  rw [scanItems, scanItems, hvalue]
  cases h : scanValue b' t with
  | error stop => rfl
  | ok p =>
    obtain ⟨item, rest⟩ := p
    rw [h] at hread
    have hrest : rest.length ≤ t.length := List.IsSuffix.length_le hread
    simp only
    cases hclose : after? ']' (skipSpace rest) with
    | some after => rfl
    | none =>
      cases hcomma : after? ',' (skipSpace rest) with
      | none => rfl
      | some next =>
        simp only
        rw [hitems _ (length_of_marked hrest hcomma)]

theorem scanMembers_bound_succ {t : Text}
    (hvalue : ∀ s : Text, s.length < t.length → scanValue b s = scanValue b' s)
    (hmembers : ∀ s : Text, s.length < t.length → scanMembers b s = scanMembers b' s) :
    scanMembers (b + 1) t = scanMembers (b' + 1) t := by
  cases t with
  | nil => rw [scanMembers, scanMembers]
  | cons c t =>
    have hname := within_scanText (c :: t) t
    rw [scanMembers, scanMembers]
    cases h : scanText (c :: t) t with
    | error stop => rfl
    | ok p =>
      obtain ⟨name, rest⟩ := p
      rw [h] at hname
      have hrest : rest.length ≤ (c :: t).length := Nat.le_succ_of_le (List.IsSuffix.length_le hname)
      simp only
      cases hcolon : after? ':' (skipSpace rest) with
      | none => rfl
      | some colon =>
        have hstart := length_of_marked hrest hcolon
        have hread := (within_scan b').1 (skipSpace colon)
        simp only
        rw [hvalue _ hstart]
        cases hv : scanValue b' (skipSpace colon) with
        | error stop => rfl
        | ok q =>
          obtain ⟨value, left⟩ := q
          rw [hv] at hread
          have hleft : left.length ≤ (c :: t).length :=
            Nat.le_trans (List.IsSuffix.length_le hread) (Nat.le_of_lt hstart)
          simp only
          cases hclose : after? '\x7d' (skipSpace left) with
          | some after => rfl
          | none =>
            cases hcomma : after? ',' (skipSpace left) with
            | none => rfl
            | some next =>
              simp only
              rw [hmembers _ (length_of_marked hleft hcomma)]

/-! ## Whole scans -/

theorem scanValue_nil (b : Nat) : scanValue b [] = .error (.malformed .expectedValue []) := by
  cases b <;> rw [scanValue]

theorem scanMembers_nil (b : Nat) : scanMembers b [] = .error (.malformed .expectedName []) := by
  cases b <;> rw [scanMembers]

/-- Bounds that are enough for a text agree on it, by induction on its length. -/
theorem scan_bound (t : Text) :
    (∀ b b', 2 * t.length ≤ b → 2 * t.length ≤ b' → scanValue b t = scanValue b' t) ∧
      (∀ b b', 2 * t.length + 1 ≤ b → 2 * t.length + 1 ≤ b' → scanItems b t = scanItems b' t) ∧
      ∀ b b', 2 * t.length ≤ b → 2 * t.length ≤ b' → scanMembers b t = scanMembers b' t := by
  induction hn : t.length using Nat.strongRecOn generalizing t with
  | ind n ih =>
    subst hn
    have hvalue : ∀ b b', 2 * t.length ≤ b → 2 * t.length ≤ b' → scanValue b t = scanValue b' t := by
      intro b b' hb hb'
      by_cases hnil : t = []
      · rw [hnil, scanValue_nil, scanValue_nil]
      · have hpos := List.length_pos_iff.mpr hnil
        obtain ⟨b, rfl⟩ : ∃ k, b = k + 1 := ⟨b - 1, by omega⟩
        obtain ⟨b', rfl⟩ : ∃ k, b' = k + 1 := ⟨b' - 1, by omega⟩
        apply scanValue_bound_succ
        · exact fun s hs => (ih _ hs s rfl).2.1 b b' (by omega) (by omega)
        · exact fun s hs => (ih _ hs s rfl).2.2 b b' (by omega) (by omega)
    refine ⟨hvalue, ?_, ?_⟩
    · intro b b' hb hb'
      obtain ⟨b, rfl⟩ : ∃ k, b = k + 1 := ⟨b - 1, by omega⟩
      obtain ⟨b', rfl⟩ : ∃ k, b' = k + 1 := ⟨b' - 1, by omega⟩
      apply scanItems_bound_succ
      · exact hvalue b b' (by omega) (by omega)
      · exact fun s hs => (ih _ hs s rfl).2.1 b b' (by omega) (by omega)
    · intro b b' hb hb'
      by_cases hnil : t = []
      · rw [hnil, scanMembers_nil, scanMembers_nil]
      · have hpos := List.length_pos_iff.mpr hnil
        obtain ⟨b, rfl⟩ : ∃ k, b = k + 1 := ⟨b - 1, by omega⟩
        obtain ⟨b', rfl⟩ : ∃ k, b' = k + 1 := ⟨b' - 1, by omega⟩
        apply scanMembers_bound_succ
        · exact fun s hs => (ih _ hs s rfl).1 b b' (by omega) (by omega)
        · exact fun s hs => (ih _ hs s rfl).2.2 b b' (by omega) (by omega)

/-- **The bound on nested calls does not matter** where it is at least twice the length of the text. -/
theorem scanValue_bound {t : Text} (h : 2 * t.length ≤ b) (h' : 2 * t.length ≤ b') :
    scanValue b t = scanValue b' t := (scan_bound t).1 b b' h h'

end Json
end IntentLint

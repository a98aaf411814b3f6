import IntentLint.Check.Basic
import IntentLint.Proofs.Text.Lowercase

/-!
# `Proofs.Text.Key` — the key of a text

Two texts are the same to the checks when they have the same key. The key does not see what trimming and lower case
do: blanks around a text, capitals in it, and which of the two is dealt with first all make no difference
(`key_between_blanks`). So a key is in the one form that all texts with this key share. It is its own key and has no
outer blank, and it is the lower case of what stands between the outer blanks of the text (`key_canonical`).
-/

namespace IntentLint
namespace Text

variable {l r t : Text}

theorem trim_key (t : Text) : trim t.key = t.key := by
  unfold key
  rw [trim_lower, trim_trim]

theorem lower_key (t : Text) : lower t.key = t.key := lower_lower (trim t)

/-! ## What the key does not see -/

/-- **The key does not see blanks around a text, nor its capitals.** Trimming and lower case can be done in either
order. -/
theorem key_between_blanks (hl : ∀ c ∈ l, c.isBlank = true) (hr : ∀ c ∈ r, c.isBlank = true) (t : Text) :
    (l ++ t ++ r).key = t.key ∧ t.key = t.lower.trim ∧ t.lower.key = t.key := by
  have hsame : t.key = t.lower.trim := (trim_lower t).symm
  refine ⟨?_, hsame, ?_⟩
  · show lower (trim (l ++ t ++ r)) = lower (trim t)
    rw [List.append_assoc, trim_append_blanks hl hr]
  · show lower (trim (lower t)) = lower (trim t)
    rw [trim_lower, lower_lower]

/-- The sigma at the end of a word is final, and a byte order mark on either side of the word, which the search for
a cased neighbour passes over, does not change that. -/
theorem key_between_byteOrderMarks :
    (∀ c ∈ ("\uFEFF" : Text), c.isBlank = true) ∧ (∀ c ∈ ("\uFEFF\n" : Text), c.isBlank = true) ∧
      (("\uFEFF" : Text) ++ "ΟΔΟΣ" ++ "\uFEFF\n").key = ("ΟΔΟΣ" : Text).key ∧
      ("ΟΔΟΣ" : Text).key = ("ΟΔΟΣ" : Text).lower.trim ∧
      ("ΟΔΟΣ" : Text).lower.key = ("ΟΔΟΣ" : Text).key ∧ ("ΟΔΟΣ" : Text).key = "οδος" := by
  have hl : ∀ c ∈ ("\uFEFF" : Text), c.isBlank = true := by decide
  have hr : ∀ c ∈ ("\uFEFF\n" : Text), c.isBlank = true := by decide
  obtain ⟨hpadded, hsame, hlower⟩ := key_between_blanks hl hr "ΟΔΟΣ"
  exact ⟨hl, hr, hpadded, hsame, hlower, by decide +kernel⟩

/-! ## The form of a key -/

/-- A text is cut into a middle part and blanks around it, and the part has no blank at either end. -/
structure Core (t l m r : Text) : Prop where
  whole : t = l ++ m ++ r
  left : ∀ c ∈ l, c.isBlank = true
  right : ∀ c ∈ r, c.isBlank = true
  ends : m = [] ∨ ∃ first last, m.head? = some first ∧ m.getLast? = some last ∧
    first.isBlank = false ∧ last.isBlank = false

/-- **Trimming cuts out the middle part**, and no other part of the text can be cut out in this way. -/
theorem exists_core_iff (t m : Text) : (∃ l r, Core t l m r) ↔ t.trim = m := by
  constructor
  · rintro ⟨l, r, hcore⟩
    have hends : ¬ StartsBlank m ∧ ¬ EndsBlank m := by
      rcases hcore.ends with rfl | ⟨first, last, hfirst, hlast, hnot, hnot'⟩
      · refine ⟨?_, not_endsBlank_nil⟩
        rintro ⟨c, hc, -⟩
        cases hc
      · refine ⟨?_, ?_⟩
        · rintro ⟨c, hc, hblank⟩
          cases hfirst.symm.trans hc
          exact Bool.false_ne_true (hnot.symm.trans hblank)
        · rintro ⟨c, hc, hblank⟩
          cases hlast.symm.trans hc
          exact Bool.false_ne_true (hnot'.symm.trans hblank)
    rw [hcore.whole, List.append_assoc]
    exact trim_between_blanks hcore.left hcore.right hends.1 hends.2
  · rintro rfl
    obtain ⟨l, r, hl, hr, ht⟩ := exists_append_trim_append t
    refine ⟨l, r, ⟨by rw [List.append_assoc]; exact ht, hl, hr, ?_⟩⟩
    by_cases hnil : t.trim = []
    · exact .inl hnil
    · have hfirst := List.head?_eq_some_head hnil
      have hlast := List.getLast?_eq_some_getLast hnil
      refine .inr ⟨_, _, hfirst, hlast, ?_, ?_⟩
      · rw [Bool.eq_false_iff]
        exact fun hblank => not_startsBlank_trim t ⟨_, hfirst, hblank⟩
      · rw [Bool.eq_false_iff]
        exact fun hblank => not_endsBlank_trim t ⟨_, hlast, hblank⟩

/-- **A key is in canonical form.** It is its own key and has no outer blank. The text is cut in one way only into
blanks, a part without a blank at either end, and blanks: this part is what trimming leaves, and the key is its lower
case. -/
theorem key_canonical (t : Text) :
    t.key.key = t.key ∧ t.key.hasOuterBlank = false ∧
      (∀ m, (∃ l r, Core t l m r) ↔ t.trim = m) ∧ t.key = t.trim.lower := by
  refine ⟨?_, ?_, exists_core_iff t, rfl⟩
  · show lower (trim t.key) = t.key
    rw [trim_key, lower_key]
  · unfold hasOuterBlank
    rw [trim_key]
    exact decide_eq_false (not_not_intro rfl)

end Text
end IntentLint

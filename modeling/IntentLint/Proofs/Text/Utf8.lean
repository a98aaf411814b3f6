import IntentLint.Files.Reader
import IntentLint.Proofs.Text.Lines

/-!
# `Proofs.Text.Utf8` — what is written in UTF-8 is read back

A text without surrogates comes back from its own octets, and a file that holds the octets of such a text
gives that text with its line ends rewritten. The decoder is followed through one character: the lead
octet opens it with the payload and the range of the second octet, the octets in between add six bits each,
and the last one closes it.
-/

namespace IntentLint
namespace Utf8

/-- A text that has a strict UTF-8 form: no half of a surrogate pair stands in it. -/
def Scalar (t : Text) : Prop := ∀ c ∈ t, c.isSurrogate = false

theorem toNat_toUInt8 {n : Nat} (h : n < 256) : n.toUInt8.toNat = n := by
  show (UInt8.ofNat n).toNat = n
  rw [UInt8.toNat_ofNat']
  exact Nat.mod_eq_of_lt h

theorem not_surrogate_val {c : CodePoint} (h : c.isSurrogate = false) : c.val < 0xD800 ∨ 0xDFFF < c.val := by
  simp only [CodePoint.isSurrogate, Bool.and_eq_false_iff, decide_eq_false_iff_not] at h
  omega

/-! ## Steps of the decoder -/

/-- A lead octet above ASCII opens a character. -/
theorem decodeFrom_lead {position : Nat} {b : UInt8} {p : Pending} (hb : 0x80 ≤ b.toNat)
    (hp : Pending.ofLead? position b = some p) (rest : Bytes) :
    decodeFrom position none (b :: rest) = decodeFrom (position + 1) (some p) rest := by
  simp only [decodeFrom, if_neg (Nat.not_lt.mpr hb), hp]

/-- An octet in range that is not the last one takes a character on. -/
theorem decodeFrom_more {position : Nat} {b : UInt8} {p : Pending}
    (hb : p.low ≤ b.toNat ∧ b.toNat ≤ p.high) (hp : p.owed ≠ 1) (hp' : p.owed ≠ 0) (rest : Bytes) :
    decodeFrom position (some p) (b :: rest) = decodeFrom (position + 1) (some (p.take b)) rest := by
  have howed : (p.take b).owed ≠ 0 := by
    show p.owed - 1 ≠ 0
    omega
  simp only [decodeFrom, if_pos hb, if_neg howed]

/-- The last octet closes a character. -/
theorem decodeFrom_last {position : Nat} {b : UInt8} {p : Pending}
    (hb : p.low ≤ b.toNat ∧ b.toNat ≤ p.high) (hp : p.owed = 1) (rest : Bytes) :
    decodeFrom position (some p) (b :: rest) =
      (decodeFrom (position + 1) none rest).map (CodePoint.ofNat (p.take b).bits :: ·) := by
  have howed : (p.take b).owed = 0 := by
    show p.owed - 1 = 0
    omega
  simp only [decodeFrom, if_pos hb, if_pos howed]

/-! ## Lead octets

The range of the second octet depends on the lead: it keeps out longer forms than needed, surrogates, and
numbers that are too large. So the lead is stated together with the second octet of the same code point. -/

variable {v : Nat}

theorem ofLead_two (h : 0x80 ≤ v) (h' : v < 0x800) (position : Nat) :
    Pending.ofLead? position (0xC0 + v / 0x40).toUInt8 =
      some ⟨(0xC0 + v / 0x40).toUInt8, position, 1, 1, 0x80, 0xBF, v / 0x40⟩ := by
  have hn : (0xC0 + v / 0x40).toUInt8.toNat = 0xC0 + v / 0x40 := toNat_toUInt8 (by omega)
  simp only [Pending.ofLead?, hn]
  rw [if_pos (by omega), Nat.add_sub_cancel_left]

theorem ofLead_three (h : 0x800 ≤ v) (h' : v < 0x10000) (hs : v < 0xD800 ∨ 0xDFFF < v) (position : Nat) :
    ∃ low high, low ≤ 0x80 + v / 0x40 % 0x40 ∧ 0x80 + v / 0x40 % 0x40 ≤ high ∧
      Pending.ofLead? position (0xE0 + v / 0x1000).toUInt8 =
        some ⟨(0xE0 + v / 0x1000).toUInt8, position, 1, 2, low, high, v / 0x1000⟩ := by
  have hn : (0xE0 + v / 0x1000).toUInt8.toNat = 0xE0 + v / 0x1000 := toNat_toUInt8 (by omega)
  simp only [Pending.ofLead?, hn]
  rw [if_neg (by omega)]
  by_cases hzero : v / 0x1000 = 0
  · refine ⟨0xA0, 0xBF, by omega, by omega, ?_⟩
    rw [if_pos (by omega), hzero]
  · rw [if_neg (by omega)]
    by_cases hd : v / 0x1000 = 0xD
    · refine ⟨0x80, 0x9F, by omega, by omega, ?_⟩
      rw [if_pos (by omega), hd]
    · refine ⟨0x80, 0xBF, by omega, by omega, ?_⟩
      rw [if_neg (by omega), if_pos (by omega), Nat.add_sub_cancel_left]

theorem ofLead_four (h : 0x10000 ≤ v) (h' : v < 0x110000) (position : Nat) :
    ∃ low high, low ≤ 0x80 + v / 0x1000 % 0x40 ∧ 0x80 + v / 0x1000 % 0x40 ≤ high ∧
      Pending.ofLead? position (0xF0 + v / 0x40000).toUInt8 =
        some ⟨(0xF0 + v / 0x40000).toUInt8, position, 1, 3, low, high, v / 0x40000⟩ := by
  have hn : (0xF0 + v / 0x40000).toUInt8.toNat = 0xF0 + v / 0x40000 := toNat_toUInt8 (by omega)
  simp only [Pending.ofLead?, hn]
  rw [if_neg (by omega), if_neg (by omega), if_neg (by omega), if_neg (by omega)]
  by_cases hzero : v / 0x40000 = 0
  · refine ⟨0x90, 0xBF, by omega, by omega, ?_⟩
    rw [if_pos (by omega), hzero]
  · rw [if_neg (by omega)]
    by_cases hfour : v / 0x40000 = 4
    · refine ⟨0x80, 0x8F, by omega, by omega, ?_⟩
      rw [if_neg (by omega), if_pos (by omega), hfour]
    · refine ⟨0x80, 0xBF, by omega, by omega, ?_⟩
      rw [if_pos (by omega), Nat.add_sub_cancel_left]

/-! ## One character, and a text -/

/-- **The octets of a code point give that code point**, wherever they stand. -/
theorem decodeFrom_encodePoint {c : CodePoint} (hc : c.isSurrogate = false) (position : Nat)
    (rest : Bytes) :
    ∃ next, decodeFrom position none (encodePoint c ++ rest) =
      (decodeFrom next none rest).map (c :: ·) := by
  have hlt := c.val_lt
  have tail : ∀ n : Nat, (0x80 + n % 0x40).toUInt8.toNat = 0x80 + n % 0x40 :=
    fun n => toNat_toUInt8 (by omega)
  unfold encodePoint
  by_cases h1 : c.val < 0x80
  · -- ASCII
    rw [if_pos h1]
    have hn : c.val.toUInt8.toNat = c.val := toNat_toUInt8 (by omega)
    refine ⟨position + 1, ?_⟩
    simp only [List.singleton_append, decodeFrom, hn, if_pos h1, CodePoint.ofNat_val]
  rw [if_neg h1]
  by_cases h2 : c.val < 0x800
  · -- a lead octet and one more
    rw [if_pos h2]
    have hn : (0xC0 + c.val / 0x40).toUInt8.toNat = 0xC0 + c.val / 0x40 := toNat_toUInt8 (by omega)
    refine ⟨position + 1 + 1, ?_⟩
    simp only [List.cons_append, List.nil_append]
    rw [decodeFrom_lead (by omega) (ofLead_two (by omega) h2 position),
      decodeFrom_last ⟨by simp only [tail]; omega, by simp only [tail]; omega⟩ rfl]
    have hbits : c.val / 0x40 * 0x40 + (0x80 + c.val % 0x40 - 0x80) = c.val := by omega
    simp only [Pending.take, tail, hbits, CodePoint.ofNat_val]
  rw [if_neg h2]
  by_cases h3 : c.val < 0x10000
  · -- a lead octet and two more, outside the surrogates
    rw [if_pos h3]
    have hn : (0xE0 + c.val / 0x1000).toUInt8.toNat = 0xE0 + c.val / 0x1000 := toNat_toUInt8 (by omega)
    obtain ⟨low, high, hlow, hhigh, hlead⟩ :=
      ofLead_three (by omega) h3 (not_surrogate_val hc) position
    refine ⟨position + 1 + 1 + 1, ?_⟩
    simp only [List.cons_append, List.nil_append]
    rw [decodeFrom_lead (by omega) hlead,
      decodeFrom_more ⟨by rw [tail]; exact hlow, by rw [tail]; exact hhigh⟩ (by simp) (by simp),
      decodeFrom_last ⟨by simp only [Pending.take, tail]; omega, by simp only [Pending.take, tail]; omega⟩ rfl]
    have hbits : (c.val / 0x1000 * 0x40 + (0x80 + c.val / 0x40 % 0x40 - 0x80)) * 0x40 +
        (0x80 + c.val % 0x40 - 0x80) = c.val := by omega
    simp only [Pending.take, tail, hbits, CodePoint.ofNat_val]
  · -- a lead octet and three more
    rw [if_neg h3]
    have hn : (0xF0 + c.val / 0x40000).toUInt8.toNat = 0xF0 + c.val / 0x40000 := toNat_toUInt8 (by omega)
    obtain ⟨low, high, hlow, hhigh, hlead⟩ := ofLead_four (by omega) hlt position
    refine ⟨position + 1 + 1 + 1 + 1, ?_⟩
    simp only [List.cons_append, List.nil_append]
    rw [decodeFrom_lead (by omega) hlead,
      decodeFrom_more ⟨by rw [tail]; exact hlow, by rw [tail]; exact hhigh⟩ (by simp) (by simp),
      decodeFrom_more ⟨by simp only [Pending.take, tail]; omega, by simp only [Pending.take, tail]; omega⟩
        (by simp [Pending.take]) (by simp [Pending.take]),
      decodeFrom_last ⟨by simp only [Pending.take, tail]; omega, by simp only [Pending.take, tail]; omega⟩ rfl]
    have hbits : ((c.val / 0x40000 * 0x40 + (0x80 + c.val / 0x1000 % 0x40 - 0x80)) * 0x40 +
        (0x80 + c.val / 0x40 % 0x40 - 0x80)) * 0x40 + (0x80 + c.val % 0x40 - 0x80) = c.val := by omega
    simp only [Pending.take, tail, hbits, CodePoint.ofNat_val]

theorem decodeFrom_encode {t : Text} (ht : Scalar t) (position : Nat) :
    decodeFrom position none (encode t) = .ok t := by
  induction t generalizing position with
  | nil => rfl
  | cons c rest ih =>
    have hrest : Scalar rest := fun d hd => ht d (List.mem_cons_of_mem _ hd)
    obtain ⟨next, hnext⟩ :=
      decodeFrom_encodePoint (ht c List.mem_cons_self) position (encode rest)
    show decodeFrom position none (encodePoint c ++ encode rest) = .ok (c :: rest)
    rw [hnext, ih hrest next]
    rfl

/-- **A text without surrogates is read back from its octets.** -/
theorem decode_encode {t : Text} (ht : Scalar t) : decode (encode t) = .ok t := decodeFrom_encode ht 0

end Utf8

/-! ## Files -/

variable {t : Text}

/-- **A file with the octets of a text gives the text**, with its line ends rewritten. -/
theorem textOfOctets_encode (ht : Utf8.Scalar t) : textOfOctets (Utf8.encode t) = .ok t.unixLines := by
  unfold textOfOctets
  rw [Utf8.decode_encode ht]
  rfl

theorem Reader.text_of_encode {read : Reader} {path : Text} (h : read path = .ok (Utf8.encode t))
    (ht : Utf8.Scalar t) : read.text path = .ok t.unixLines := by
  unfold Reader.text
  rw [h]
  show (textOfOctets (Utf8.encode t)).mapError FileFault.undecodable = .ok t.unixLines
  rw [textOfOctets_encode ht]
  rfl

/-- The text is given as it is when it has no carriage return. -/
theorem Reader.text_of_octets {read : Reader} {path : Text} (h : read path = .ok (Utf8.encode t))
    (ht : Utf8.Scalar t) (hr : CodePoint.ofChar '\r' ∉ t) : read.text path = .ok t := by
  rw [Reader.text_of_encode h ht, Text.unixLines_of_not_mem hr]

end IntentLint

import IntentLint.Proofs.Entries
import IntentLint.Proofs.Json.Digits
import Mathlib.Data.List.Basic

/-!
# `Proofs.Json.Strict` — documents from text, by the letter

The decoder takes more than JSON: three constants, and names that repeat. And it takes less: an integer may have so
many digits and no more. Here is JSON to the letter (`Strict.decode?`): of words there are null, true and false, an
integer may be of any length, and the names of an object are distinct.

What is JSON to the letter decodes as the same document, unless an integer in it is too long
(`Strict.decode_of_decode?`).
-/

namespace IntentLint
namespace Json
namespace Strict

/-! ## The decoder -/

/-- The values that are written as words. -/
def words : List (Text × Json) := [("null", .null), ("true", .bool true), ("false", .bool false)]

/-- The value of a word at the start of a text. -/
def word? (t : Text) : Option (Json × Text) :=
  words.findSome? fun (word, value) => (word.isPrefixOf? t).map fun rest => (value, rest)

/-- A number without its sign. -/
def unsigned? (negative : Bool) (t : Text) : Option (Number × Text) :=
  (scanWhole? t).map fun (whole, rest) =>
    let fraction := orNothing scanFraction? rest
    let exponent := orNothing scanExponent? fraction.2
    match fraction.1, exponent.1 with
    | none, none =>
      let size : Int := Text.digitsValue whole
      (.integer (if negative then -size else size), exponent.2)
    | _, _ =>
      let digits := fraction.1.getD []
      (.decimal negative (Text.digitsValue (whole ++ digits)) (exponent.1.getD 0 - digits.length), exponent.2)

/-- A number at the start of a text. -/
def number? (t : Text) : Option (Number × Text) :=
  match after? '-' t with
  | some unsigned => unsigned? true unsigned
  | none => unsigned? false t

mutual

/-- A value at the start of a text. -/
def value? : Nat → Text → Option (Json × Text)
  | 0, _ => none
  | _ + 1, [] => none
  | bound + 1, c :: rest =>
    if c = '"' then (scanText (c :: rest) rest).toOption.map fun (s, after) => (.text s, after)
    else if c = '\x7b' then
      match after? '\x7d' (skipSpace rest) with
      | some after => some (.object [], after)
      | none =>
        (members? bound (skipSpace rest)).bind fun (members, after) =>
          if (Entries.keys members).Nodup then some (.object members, after) else none
    else if c = '[' then
      match after? ']' (skipSpace rest) with
      | some after => some (.array [], after)
      | none => (items? bound (skipSpace rest)).map fun (items, after) => (.array items, after)
    else (word? (c :: rest)).or ((number? (c :: rest)).map fun (n, after) => (.number n, after))

/-- Items up to and with the closing bracket, at least one. -/
def items? : Nat → Text → Option (List Json × Text)
  | 0, _ => none
  | bound + 1, t =>
    (value? bound t).bind fun (item, rest) =>
      match after? ']' (skipSpace rest), after? ',' (skipSpace rest) with
      | some after, _ => some ([item], after)
      | none, some next => (items? bound (skipSpace next)).map fun (items, after) => (item :: items, after)
      | none, none => none

/-- Members up to and with the closing brace, at least one. -/
def members? : Nat → Text → Option (List (Text × Json) × Text)
  | 0, _ => none
  | _ + 1, [] => none
  | bound + 1, c :: t =>
    if c = '"' then
      (scanText (c :: t) t).toOption.bind fun (name, rest) =>
        (after? ':' (skipSpace rest)).bind fun colon =>
          (value? bound (skipSpace colon)).bind fun (value, rest) =>
            match after? '\x7d' (skipSpace rest), after? ',' (skipSpace rest) with
            | some after, _ => some ([(name, value)], after)
            | none, some next =>
              (members? bound (skipSpace next)).map fun (members, after) => ((name, value) :: members, after)
            | none, none => none
    else none

end

/-- The document that a text writes: a value with blanks around it and nothing else. -/
def decode? (t : Text) : Option Json :=
  (value? (2 * t.length + 2) (skipSpace t)).bind fun (value, rest) =>
    if skipSpace rest = [] then some value else none

/-! ## What is read by the letter is read -/

/-- A scanner reads what was found, or it stops for an integer with too many digits. -/
def Reaches {α : Type} (r : Scan α) (found : α × Text) : Prop :=
  r = .ok found ∨ ∃ n, r = .error (.oversizedInteger n)

variable {α β : Type}

theorem Reaches.map {r : Scan α} {found : α × Text} (h : Reaches r found) (f : α × Text → β × Text) :
    Reaches (r.map f) (f found) := by
  rcases h with rfl | ⟨n, rfl⟩
  · exact .inl rfl
  · exact .inr ⟨n, rfl⟩

/-- A word to the letter is a word. -/
theorem scanWord?_of_word? {t : Text} {found : Json × Text} (h : word? t = some found) :
    scanWord? t = some found := by
  have hwords : Json.words = words ++ Json.words.drop 3 := rfl
  unfold word? at h
  unfold scanWord?
  rw [hwords, List.findSome?_append, h, Option.some_or]

/-- A number is no word, neither to the letter nor otherwise. -/
theorem scanWord?_of_number? {t : Text} {found : Number × Text} (h : number? t = some found) :
    scanWord? t = none := by
  -- the words begin with letters, or with a sign and a letter behind it
  have hnumber : ∀ word ∈ Json.words, ∀ rest, number? (word.1 ++ rest) = none := by
    simp only [Json.words, List.forall_mem_cons]
    refine ⟨?_, ?_, ?_, ?_, ?_, ?_, by simp⟩ <;> intro rest <;> rfl
  unfold scanWord?
  rw [List.findSome?_eq_none_iff]
  rintro ⟨word, value⟩ hmem
  rw [Option.map_eq_none_iff, Option.eq_none_iff_forall_not_mem]
  intro rest hrest
  have hprefix : word ++ rest = t := List.isPrefixOf?_eq_some_iff_append_eq.mp hrest
  rw [← hprefix, hnumber _ hmem rest] at h
  cases h

theorem reaches_scanNumber {t : Text} {found : Number × Text} (h : number? t = some found) :
    Reaches (scanNumber t) found := by
  have hunsigned : ∀ (negative : Bool) (unsigned : Text), unsigned? negative unsigned = some found →
      Reaches (scanUnsigned negative t unsigned) found := by
    intro negative unsigned h
    obtain ⟨⟨whole, rest⟩, hwhole, rfl⟩ := Option.map_eq_some_iff.mp h
    unfold scanUnsigned
    rw [hwhole]
    simp only
    generalize orNothing scanFraction? rest = fraction
    generalize orNothing scanExponent? fraction.2 = exponent
    obtain ⟨fraction?, -⟩ := fraction
    obtain ⟨exponent?, after⟩ := exponent
    cases fraction? with
    | some digits => exact .inl rfl
    | none =>
      cases exponent? with
      | some exponent => exact .inl rfl
      | none =>
        by_cases hlong : maxIntegerDigits < whole.length
        · exact .inr ⟨whole.length, if_pos hlong⟩
        · exact .inl (if_neg hlong)
  unfold number? at h
  rw [scanNumber_eq]
  cases hsign : after? '-' t with
  | some unsigned =>
    rw [hsign] at h
    exact hunsigned true unsigned h
  | none =>
    rw [hsign] at h
    exact hunsigned false t h

variable {bound : Nat}

/-- What the letter reads of a value a scanner reaches, if it does so of items and members. -/
theorem reaches_scanValue_succ
    (hitems : ∀ t found, items? bound t = some found → Reaches (scanItems bound t) found)
    (hmembers : ∀ t found, members? bound t = some found → Reaches (scanMembers bound t) found)
    (t : Text) (found : Json × Text) (h : value? (bound + 1) t = some found) :
    Reaches (scanValue (bound + 1) t) found := by
  cases t with
  | nil => rw [value?] at h; cases h
  | cons c rest =>
    rw [value?] at h
    rw [scanValue]
    split at h
    · next hquote =>
      rw [if_pos hquote]
      cases hs : scanText (c :: rest) rest with
      | ok p =>
        rw [hs] at h
        cases h
        exact .inl rfl
      | error stop =>
        rw [hs] at h
        cases h
    · next hquote =>
      rw [if_neg hquote]
      split at h
      · next hbrace =>
        rw [if_pos hbrace]
        cases hafter : after? '\x7d' (skipSpace rest) with
        | some after =>
          rw [hafter] at h
          cases h
          exact .inl rfl
        | none =>
          rw [hafter] at h
          obtain ⟨⟨members, after⟩, hread, h⟩ := Option.bind_eq_some_iff.mp h
          simp only at h
          by_cases hnodup : (Entries.keys members).Nodup
          · -- a scanner keeps one member under each name, so it keeps distinct ones all
            rw [if_pos hnodup] at h
            cases h
            have hobject := (hmembers _ _ hread).map fun p => (Json.object (Entries.ofList p.1), p.2)
            rw [Entries.ofList_of_nodup hnodup] at hobject
            exact hobject
          · rw [if_neg hnodup] at h
            cases h
      · next hbrace =>
        rw [if_neg hbrace]
        split at h
        · next hbracket =>
          rw [if_pos hbracket]
          cases hafter : after? ']' (skipSpace rest) with
          | some after =>
            rw [hafter] at h
            cases h
            exact .inl rfl
          | none =>
            rw [hafter] at h
            obtain ⟨p, hread, rfl⟩ := Option.map_eq_some_iff.mp h
            exact (hitems _ _ hread).map fun p => (Json.array p.1, p.2)
        · next hbracket =>
          rw [if_neg hbracket]
          rcases Option.or_eq_some_iff.mp h with hword | ⟨-, hnumber⟩
          · rw [scanWord?_of_word? hword]
            exact .inl rfl
          · obtain ⟨p, hread, rfl⟩ := Option.map_eq_some_iff.mp hnumber
            rw [scanWord?_of_number? hread]
            exact (reaches_scanNumber hread).map fun p => (Json.number p.1, p.2)

theorem reaches_scanItems_succ
    (hvalue : ∀ t found, value? bound t = some found → Reaches (scanValue bound t) found)
    (hitems : ∀ t found, items? bound t = some found → Reaches (scanItems bound t) found)
    (t : Text) (found : List Json × Text) (h : items? (bound + 1) t = some found) :
    Reaches (scanItems (bound + 1) t) found := by
  rw [items?] at h
  rw [scanItems]
  obtain ⟨⟨item, rest⟩, hitem, h⟩ := Option.bind_eq_some_iff.mp h
  rcases hvalue _ _ hitem with hok | ⟨n, hlong⟩
  · rw [hok]
    simp only at h ⊢
    cases hclose : after? ']' (skipSpace rest) with
    | some after =>
      rw [hclose] at h
      cases h
      exact .inl rfl
    | none =>
      cases hcomma : after? ',' (skipSpace rest) with
      | some next =>
        rw [hclose, hcomma] at h
        obtain ⟨p, hread, rfl⟩ := Option.map_eq_some_iff.mp h
        exact (hitems _ _ hread).map fun p => (item :: p.1, p.2)
      | none =>
        rw [hclose, hcomma] at h
        cases h
  · rw [hlong]
    exact .inr ⟨n, rfl⟩

theorem reaches_scanMembers_succ
    (hvalue : ∀ t found, value? bound t = some found → Reaches (scanValue bound t) found)
    (hmembers : ∀ t found, members? bound t = some found → Reaches (scanMembers bound t) found)
    (t : Text) (found : List (Text × Json) × Text) (h : members? (bound + 1) t = some found) :
    Reaches (scanMembers (bound + 1) t) found := by
  cases t with
  | nil => rw [members?] at h; cases h
  | cons c t =>
    rw [members?] at h
    rw [scanMembers]
    split at h
    · next hquote =>
      rw [if_pos hquote]
      obtain ⟨⟨name, rest⟩, hname, h⟩ := Option.bind_eq_some_iff.mp h
      obtain ⟨colon, hcolon, h⟩ := Option.bind_eq_some_iff.mp h
      obtain ⟨⟨value, later⟩, hread, h⟩ := Option.bind_eq_some_iff.mp h
      cases hs : scanText (c :: t) t with
      | error stop =>
        rw [hs] at hname
        cases hname
      | ok p =>
        rw [hs] at hname
        cases hname
        simp only at hcolon h ⊢
        rw [hcolon]
        rcases hvalue _ _ hread with hok | ⟨n, hlong⟩
        · simp only [hok]
          cases hclose : after? '\x7d' (skipSpace later) with
          | some after =>
            rw [hclose] at h
            cases h
            exact .inl rfl
          | none =>
            cases hcomma : after? ',' (skipSpace later) with
            | some next =>
              rw [hclose, hcomma] at h
              obtain ⟨p, hread, rfl⟩ := Option.map_eq_some_iff.mp h
              exact (hmembers _ _ hread).map fun p => ((name, value) :: p.1, p.2)
            | none =>
              rw [hclose, hcomma] at h
              cases h
        · simp only [hlong]
          exact .inr ⟨n, rfl⟩
    · cases h

/-- Whatever is read by the letter a scanner reaches, by induction on the bound of nested calls. -/
theorem reaches_scan (bound : Nat) :
    (∀ t found, value? bound t = some found → Reaches (scanValue bound t) found) ∧
      (∀ t found, items? bound t = some found → Reaches (scanItems bound t) found) ∧
      ∀ t found, members? bound t = some found → Reaches (scanMembers bound t) found := by
  induction bound with
  | zero =>
    refine ⟨fun t found h => ?_, fun t found h => ?_, fun t found h => ?_⟩
    · rw [value?] at h; cases h
    · rw [items?] at h; cases h
    · rw [members?] at h; cases h
  | succ bound ih =>
    obtain ⟨hvalue, hitems, hmembers⟩ := ih
    exact ⟨reaches_scanValue_succ hitems hmembers, reaches_scanItems_succ hvalue hitems,
      reaches_scanMembers_succ hvalue hmembers⟩

/-- No value begins with a byte order mark. -/
theorem value?_byteOrderMark (bound : Nat) (rest : Text) :
    value? (bound + 1) (CodePoint.ofChar '\uFEFF' :: rest) = none := by
  rw [value?, if_neg (by decide), if_neg (by decide), if_neg (by decide)]
  rfl

/-- **What is JSON to the letter decodes as the same document**, unless an integer in it is too long. -/
theorem decode_of_decode? {t : Text} {v : Json} (h : decode? t = some v) :
    decode t = .ok v ∨ ∃ n, maxIntegerDigits < n ∧ decode t = .error (.oversizedInteger n) := by
  obtain ⟨⟨value, rest⟩, hread, hend⟩ := Option.bind_eq_some_iff.mp h
  simp only at hend
  -- a mark at the start is skipped when a text is decoded, but here it opens no value
  have hmark : after? (CodePoint.ofChar '\uFEFF') t = none := by
    cases t with
    | nil => rfl
    | cons c more =>
      rw [after?, if_neg]
      rintro rfl
      have hspace : skipSpace (CodePoint.ofChar '\uFEFF' :: more) = CodePoint.ofChar '\uFEFF' :: more := by
        rw [skipSpace, List.dropWhile_cons_of_neg (by decide)]
      rw [hspace, value?_byteOrderMark] at hread
      cases hread
  have hdocument : scanDocument t = .ok v ∨ ∃ n, scanDocument t = .error (.oversizedInteger n) := by
    unfold scanDocument
    rw [hmark]
    rcases (reaches_scan _).1 _ _ hread with hok | ⟨n, hlong⟩
    · left
      by_cases hrest : skipSpace rest = []
      · rw [if_pos hrest] at hend
        cases hend
        simp only [hok, hrest]
      · rw [if_neg hrest] at hend
        cases hend
    · exact .inr ⟨n, by simp only [hlong]⟩
  rcases hdocument with hok | ⟨n, hlong⟩
  · left
    unfold decode
    rw [hok]
    rfl
  · right
    have herror : decode t = .error (.oversizedInteger n) := by
      unfold decode
      rw [hlong]
      rfl
    exact ⟨n, (decode_oversized herror).1, herror⟩

end Strict
end Json
end IntentLint

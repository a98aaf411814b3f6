import IntentLint.Proofs.Json.Bound
import IntentLint.Proofs.Json.Units
import IntentLint.Proofs.Text.Lines

/-!
# `Proofs.Json.LineEnds` — line ends do not matter to a document

A carriage return and a line feed are the same to a scanner: both are blanks between the parts of a document, and
neither may stand within a part. So every scanner commutes with the rewriting of line ends. On the rewritten text it
reads what it reads on the text, and it leaves or blames the rewritten rest (`onUnixLines`). The law is proved part
by part, and one induction on the bound carries it over to values (`scan_unixLines`).

Only the places of faults depend on the line ends, since places count code points (`decode_unixLines`).
-/

namespace IntentLint
namespace Json

variable {α β : Type}

/-- What was read, with the line ends rewritten in the text after it. -/
def restUnixLines (p : α × Text) : α × Text := (p.1, p.2.unixLines)

/-- A stop, with the line ends rewritten in the text from the fault on. -/
def Stop.unixLines : Stop → Stop
  | .malformed fault rest => .malformed fault rest.unixLines
  | .oversizedInteger digits => .oversizedInteger digits

/-- The outcome of a scanner, with the line ends rewritten in the text that it leaves or blames. -/
def onUnixLines : Scan α → Scan α
  | .ok p => .ok (restUnixLines p)
  | .error stop => .error stop.unixLines

theorem onUnixLines_ok (a : α) (rest : Text) :
    onUnixLines (.ok (a, rest) : Scan α) = .ok (a, rest.unixLines) := rfl

/-- What is made of the value that was read does not matter. -/
theorem map_onUnixLines (f : α → β) (r : Scan α) :
    (onUnixLines r).map (fun (a, rest) => (f a, rest)) = onUnixLines (r.map fun (a, rest) => (f a, rest)) := by
  cases r <;> rfl

/-! ## Blanks and marks -/

theorem skipSpace_unixLines (t : Text) : skipSpace t.unixLines = (skipSpace t).unixLines :=
  Text.dropWhile_unixLinesAfter rfl rfl false t

/-- A mark is no line end, since line ends are blanks. -/
theorem ne_of_isSpace {mark c : CodePoint} (hmark : isSpace mark = false) (hc : isSpace c = true) : c ≠ mark := by
  rintro rfl
  rw [hc] at hmark
  cases hmark

theorem after?_unixLines {mark : CodePoint} (hmark : isSpace mark = false) (t : Text) :
    after? mark t.unixLines = (after? mark t).map Text.unixLines := by
  cases t with
  | nil => rfl
  | cons c rest =>
    rcases Text.unixLines_cons_cases c rest with ⟨rfl, more, hmore⟩ | ⟨-, hcons⟩
    · rw [hmore, after?, after?, if_neg (ne_of_isSpace hmark rfl), if_neg (ne_of_isSpace hmark rfl)]
      rfl
    · rw [hcons, after?, after?]
      split <;> rfl

/-! ## Texts -/

theorem hexDigits?_unixLines (count n : Nat) (t : Text) :
    hexDigits? count n t.unixLines = (hexDigits? count n t).map restUnixLines := by
  induction count generalizing n t with
  | zero => rfl
  | succ count ih =>
    cases t with
    | nil => rfl
    | cons c rest =>
      rcases Text.unixLines_cons_cases c rest with ⟨rfl, more, hmore⟩ | ⟨-, hcons⟩
      · rw [hmore]
        rfl
      · rw [hcons, hexDigits?, hexDigits?]
        cases c.hexValue? with
        | none => rfl
        | some d => exact ih (n * 16 + d) rest

theorem numbered?_unixLines (t : Text) : numbered? t.unixLines = (numbered? t).map restUnixLines := by
  unfold numbered?
  rw [hexDigits?_unixLines]
  cases hexDigits? 4 0 t with
  | none => rfl
  | some p =>
    obtain ⟨n, rest⟩ := p
    show (if rest.unixLines = [] then none else some (CodePoint.ofNat n, rest.unixLines)) =
      (if rest = [] then none else some (CodePoint.ofNat n, rest)).map restUnixLines
    by_cases hrest : rest = []
    · rw [if_pos hrest, if_pos (Text.unixLines_eq_nil_iff.mpr hrest)]
      rfl
    · rw [if_neg hrest, if_neg (fun h => hrest (Text.unixLines_eq_nil_iff.mp h))]
      rfl

/-- Behind a backslash a line end is no escape, and an escape of one letter or four digits leaves less of the text. -/
theorem scanUnits_escape_unixLines {opening : Text} (e : CodePoint) (rest : Text)
    (ih : ∀ s : Text, s.length ≤ rest.length →
      scanUnits opening.unixLines s.unixLines = onUnixLines (scanUnits opening s)) :
    scanUnits opening.unixLines (CodePoint.ofChar '\\' :: Text.unixLines (e :: rest)) =
      onUnixLines (scanUnits opening (CodePoint.ofChar '\\' :: e :: rest)) := by
  by_cases hnumbered : e = CodePoint.ofChar 'u'
  · subst hnumbered
    rw [Text.unixLines_cons (by decide), scanUnits_numbered, scanUnits_numbered, numbered?_unixLines]
    cases hread : numbered? rest with
    | some p =>
      simp only [Option.map_some, restUnixLines]
      rw [ih p.2 (length_of_numbered? hread)]
      exact map_onUnixLines (TextUnit.mk p.1 true :: ·) _
    | none =>
      show _ = (.error (.malformed .badNumberedEscape (Text.unixLines _)) : Scan (List TextUnit))
      rw [Text.unixLines_cons (by decide)]
      rfl
  cases hletter : letterEscape? e with
  | some p =>
    have he : e ≠ CodePoint.ofChar '\r' := by
      rintro rfl
      cases hletter
    rw [Text.unixLines_cons he, scanUnits_letter hnumbered hletter, scanUnits_letter hnumbered hletter,
      ih rest (Nat.le_refl _)]
    exact map_onUnixLines (TextUnit.mk p false :: ·) _
  | none =>
    have hslash : CodePoint.ofChar '\\' ≠ CodePoint.ofChar '\r' := by decide
    rw [scanUnits_badEscape hnumbered hletter]
    show _ = (.error (.malformed .badEscape (Text.unixLines _)) : Scan (List TextUnit))
    rw [Text.unixLines_cons hslash]
    rcases Text.unixLines_cons_cases e rest with ⟨rfl, more, hmore⟩ | ⟨-, hcons⟩
    · rw [hmore, scanUnits_badEscape (by decide) rfl]
    · rw [hcons, scanUnits_badEscape hnumbered hletter]

/-- **A text between quotes is read alike**, by induction on the length of what is left of it. Within a text a line
end is a control code point. -/
theorem scanUnits_unixLines (opening t : Text) :
    scanUnits opening.unixLines t.unixLines = onUnixLines (scanUnits opening t) := by
  induction hn : t.length using Nat.strongRecOn generalizing t with
  | ind n ih =>
    subst hn
    cases t with
    | nil => rfl
    | cons c rest =>
      rcases Text.unixLines_cons_cases c rest with ⟨rfl, more, hmore⟩ | ⟨-, hcons⟩
      · rw [scanUnits_control (by decide), hmore, scanUnits_control (by decide), ← hmore]
        rfl
      rw [hcons]
      by_cases hquote : c = CodePoint.ofChar '"'
      · subst hquote
        rw [scanUnits_quote, scanUnits_quote]
        rfl
      by_cases hslash : c = CodePoint.ofChar '\\'
      · subst hslash
        cases rest with
        | nil => rfl
        | cons e rest =>
          refine scanUnits_escape_unixLines e rest fun s hs => ih s.length ?_ s rfl
          exact Nat.lt_succ_of_le (Nat.le_succ_of_le hs)
      by_cases hcontrol : c.val < 0x20
      · rw [scanUnits_control hcontrol, scanUnits_control hcontrol, ← hcons]
        rfl
      · rw [scanUnits_plain hquote hslash hcontrol, scanUnits_plain hquote hslash hcontrol,
          ih rest.length (Nat.lt_succ_self _) rest rfl]
        exact map_onUnixLines (TextUnit.mk c false :: ·) _

theorem scanText_unixLines (opening t : Text) :
    scanText opening.unixLines t.unixLines = onUnixLines (scanText opening t) := by
  unfold scanText
  rw [scanUnits_unixLines]
  exact map_onUnixLines joinPairs _

/-! ## Numbers -/

theorem takeDigits_unixLines (t : Text) :
    t.unixLines.takeWhile CodePoint.isDigit = t.takeWhile CodePoint.isDigit :=
  Text.takeWhile_unixLines rfl rfl t

theorem dropDigits_unixLines (t : Text) :
    t.unixLines.dropWhile CodePoint.isDigit = Text.unixLines (t.dropWhile CodePoint.isDigit) :=
  Text.dropWhile_unixLines rfl rfl t

theorem scanWhole?_unixLines (t : Text) : scanWhole? t.unixLines = (scanWhole? t).map restUnixLines := by
  cases t with
  | nil => rfl
  | cons c rest =>
    rcases Text.unixLines_cons_cases c rest with ⟨rfl, more, hmore⟩ | ⟨-, hcons⟩
    · rw [hmore]
      rfl
    · rw [hcons, scanWhole?, scanWhole?, takeDigits_unixLines, dropDigits_unixLines]
      by_cases hzero : c = CodePoint.ofChar '0'
      · rw [if_pos hzero, if_pos hzero]
        rfl
      · rw [if_neg hzero, if_neg hzero]
        split <;> rfl

theorem scanFraction?_unixLines (t : Text) :
    scanFraction? t.unixLines = (scanFraction? t).map restUnixLines := by
  unfold scanFraction?
  rw [after?_unixLines rfl]
  cases after? (CodePoint.ofChar '.') t with
  | none => rfl
  | some rest =>
    simp only [Option.map_some, Option.bind_some, takeDigits_unixLines, dropDigits_unixLines]
    split <;> rfl

theorem scanSize?_unixLines (negative : Bool) (t : Text) :
    scanSize? negative t.unixLines = (scanSize? negative t).map restUnixLines := by
  unfold scanSize?
  rw [takeDigits_unixLines, dropDigits_unixLines]
  split <;> rfl

theorem scanExponent?_unixLines (t : Text) :
    scanExponent? t.unixLines = (scanExponent? t).map restUnixLines := by
  have hmark : ((after? (CodePoint.ofChar 'e') t.unixLines).or (after? (CodePoint.ofChar 'E') t.unixLines)) =
      ((after? (CodePoint.ofChar 'e') t).or (after? (CodePoint.ofChar 'E') t)).map Text.unixLines := by
    rw [after?_unixLines rfl, after?_unixLines rfl]
    cases after? (CodePoint.ofChar 'e') t <;> rfl
  rw [scanExponent?_eq, scanExponent?_eq, hmark]
  cases (after? (CodePoint.ofChar 'e') t).or (after? (CodePoint.ofChar 'E') t) with
  | none => rfl
  | some rest =>
    simp only [Option.map_some, Option.bind_some]
    rw [after?_unixLines rfl, after?_unixLines rfl]
    cases after? (CodePoint.ofChar '-') rest with
    | some signed => exact scanSize?_unixLines true signed
    | none =>
      cases after? (CodePoint.ofChar '+') rest with
      | some signed => exact scanSize?_unixLines false signed
      | none => exact scanSize?_unixLines false rest

theorem orNothing_unixLines {scan? : Text → Option (α × Text)}
    (hscan : ∀ t, scan? t.unixLines = (scan? t).map restUnixLines) (t : Text) :
    orNothing scan? t.unixLines = restUnixLines (orNothing scan? t) := by
  unfold orNothing
  rw [hscan]
  cases scan? t <;> rfl

theorem scanUnsigned_unixLines (negative : Bool) (start unsigned : Text) :
    scanUnsigned negative start.unixLines unsigned.unixLines =
      onUnixLines (scanUnsigned negative start unsigned) := by
  unfold scanUnsigned
  rw [scanWhole?_unixLines]
  cases scanWhole? unsigned with
  | none => rfl
  | some p =>
    obtain ⟨whole, rest⟩ := p
    simp only [Option.map_some, restUnixLines, orNothing_unixLines scanFraction?_unixLines,
      orNothing_unixLines scanExponent?_unixLines]
    cases (orNothing scanFraction? rest).1 with
    | some digits => rfl
    | none =>
      cases (orNothing scanExponent? (orNothing scanFraction? rest).2).1 with
      | some exponent => rfl
      | none =>
        simp only
        split <;> rfl

theorem scanNumber_unixLines (t : Text) : scanNumber t.unixLines = onUnixLines (scanNumber t) := by
  rw [scanNumber_eq, scanNumber_eq, after?_unixLines rfl]
  cases after? (CodePoint.ofChar '-') t with
  | some unsigned => exact scanUnsigned_unixLines true t unsigned
  | none => exact scanUnsigned_unixLines false t t

/-! ## Values -/

theorem scanWord?_unixLines (t : Text) : scanWord? t.unixLines = (scanWord? t).map restUnixLines := by
  have hwords : ∀ p ∈ words, CodePoint.ofChar '\n' ∉ p.1 ∧ CodePoint.ofChar '\r' ∉ p.1 := by
    intro p hp
    simp only [words, List.mem_cons, List.not_mem_nil, or_false] at hp
    rcases hp with rfl | rfl | rfl | rfl | rfl | rfl <;> exact ⟨by decide, by decide⟩
  unfold scanWord?
  generalize words = table at hwords ⊢
  induction table with
  | nil => rfl
  | cons p rest ih =>
    obtain ⟨word, value⟩ := p
    have hends : CodePoint.ofChar '\n' ∉ word ∧ CodePoint.ofChar '\r' ∉ word := hwords _ List.mem_cons_self
    simp only [List.findSome?_cons]
    rw [Text.isPrefixOf?_unixLines hends.1 hends.2,
      ih fun q hq => hwords q (List.mem_cons_of_mem _ hq)]
    cases word.isPrefixOf? t <;> rfl

/-- Scans a value that is no text, object or array. -/
def scanAtom (t : Text) : Scan Json :=
  match scanWord? t with
  | some found => .ok found
  | none => (scanNumber t).map fun (n, after) => (.number n, after)

theorem scanAtom_unixLines (t : Text) : scanAtom t.unixLines = onUnixLines (scanAtom t) := by
  unfold scanAtom
  rw [scanWord?_unixLines, scanNumber_unixLines]
  cases scanWord? t with
  | some found => rfl
  | none => exact map_onUnixLines Json.number _

theorem scanValue_eq_scanAtom {c : CodePoint} (hquote : c ≠ CodePoint.ofChar '"')
    (hbrace : c ≠ CodePoint.ofChar '\x7b') (hbracket : c ≠ CodePoint.ofChar '[') (bound : Nat) (rest : Text) :
    scanValue (bound + 1) (c :: rest) = scanAtom (c :: rest) := by
  rw [scanValue, if_neg hquote, if_neg hbrace, if_neg hbracket]
  rfl

variable {bound : Nat}

theorem scanValue_unixLines_succ (hitems : ∀ t, scanItems bound t.unixLines = onUnixLines (scanItems bound t))
    (hmembers : ∀ t, scanMembers bound t.unixLines = onUnixLines (scanMembers bound t)) (t : Text) :
    scanValue (bound + 1) t.unixLines = onUnixLines (scanValue (bound + 1) t) := by
  cases t with
  | nil =>
    rw [scanValue]
    exact scanValue_nil (bound + 1)
  | cons c rest =>
    rcases Text.unixLines_cons_cases c rest with ⟨rfl, more, hmore⟩ | ⟨-, hcons⟩
    · rw [hmore, scanValue_eq_scanAtom (by decide) (by decide) (by decide),
        scanValue_eq_scanAtom (by decide) (by decide) (by decide), ← hmore, scanAtom_unixLines]
    rw [hcons]
    by_cases hquote : c = CodePoint.ofChar '"'
    · rw [scanValue, scanValue, if_pos hquote, if_pos hquote, ← hcons, scanText_unixLines]
      exact map_onUnixLines Json.text _
    by_cases hbrace : c = CodePoint.ofChar '\x7b'
    · rw [scanValue, scanValue, if_neg hquote, if_neg hquote, if_pos hbrace, if_pos hbrace, skipSpace_unixLines,
        after?_unixLines rfl, hmembers]
      cases after? (CodePoint.ofChar '\x7d') (skipSpace rest) with
      | some after => rfl
      | none => exact map_onUnixLines (fun members => Json.object (Entries.ofList members)) _
    by_cases hbracket : c = CodePoint.ofChar '['
    · rw [scanValue, scanValue, if_neg hquote, if_neg hquote, if_neg hbrace, if_neg hbrace, if_pos hbracket,
        if_pos hbracket, skipSpace_unixLines, after?_unixLines rfl, hitems]
      cases after? (CodePoint.ofChar ']') (skipSpace rest) with
      | some after => rfl
      | none => exact map_onUnixLines Json.array _
    · rw [scanValue_eq_scanAtom hquote hbrace hbracket, scanValue_eq_scanAtom hquote hbrace hbracket,
        ← hcons, scanAtom_unixLines]

theorem scanItems_unixLines_succ (hvalue : ∀ t, scanValue bound t.unixLines = onUnixLines (scanValue bound t))
    (hitems : ∀ t, scanItems bound t.unixLines = onUnixLines (scanItems bound t)) (t : Text) :
    scanItems (bound + 1) t.unixLines = onUnixLines (scanItems (bound + 1) t) := by
  rw [scanItems, scanItems, hvalue]
  cases scanValue bound t with
  | error stop => rfl
  | ok p =>
    obtain ⟨item, rest⟩ := p
    simp only [onUnixLines_ok, skipSpace_unixLines]
    rw [after?_unixLines rfl, after?_unixLines rfl]
    cases after? (CodePoint.ofChar ']') (skipSpace rest) with
    | some after => rfl
    | none =>
      cases after? (CodePoint.ofChar ',') (skipSpace rest) with
      | none => rfl
      | some next =>
        simp only [Option.map_none, Option.map_some, skipSpace_unixLines, hitems]
        exact map_onUnixLines (item :: ·) _

theorem scanMembers_unixLines_succ (hvalue : ∀ t, scanValue bound t.unixLines = onUnixLines (scanValue bound t))
    (hmembers : ∀ t, scanMembers bound t.unixLines = onUnixLines (scanMembers bound t)) (t : Text) :
    scanMembers (bound + 1) t.unixLines = onUnixLines (scanMembers (bound + 1) t) := by
  cases t with
  | nil =>
    rw [scanMembers]
    exact scanMembers_nil (bound + 1)
  | cons c t =>
    by_cases hquote : c = CodePoint.ofChar '"'
    · have hc : c ≠ CodePoint.ofChar '\r' := by
        rw [hquote]
        decide
      rw [Text.unixLines_cons hc, scanMembers, scanMembers, if_pos hquote, if_pos hquote,
        ← Text.unixLines_cons hc, scanText_unixLines]
      cases scanText (c :: t) t with
      | error stop => rfl
      | ok p =>
        obtain ⟨name, rest⟩ := p
        simp only [onUnixLines_ok, skipSpace_unixLines]
        rw [after?_unixLines rfl]
        cases after? (CodePoint.ofChar ':') (skipSpace rest) with
        | none => rfl
        | some colon =>
          simp only [Option.map_some, skipSpace_unixLines, hvalue]
          cases scanValue bound (skipSpace colon) with
          | error stop => rfl
          | ok q =>
            obtain ⟨value, left⟩ := q
            simp only [onUnixLines_ok, skipSpace_unixLines]
            rw [after?_unixLines rfl, after?_unixLines rfl]
            cases after? (CodePoint.ofChar '\x7d') (skipSpace left) with
            | some after => rfl
            | none =>
              cases after? (CodePoint.ofChar ',') (skipSpace left) with
              | none => rfl
              | some next =>
                simp only [Option.map_none, Option.map_some, skipSpace_unixLines, hmembers]
                exact map_onUnixLines ((name, value) :: ·) _
    · rw [scanMembers, if_neg hquote]
      rcases Text.unixLines_cons_cases c t with ⟨rfl, more, hmore⟩ | ⟨-, hcons⟩
      · rw [hmore, scanMembers, if_neg (by decide), ← hmore]
        rfl
      · rw [hcons, scanMembers, if_neg hquote, ← hcons]
        rfl

/-- **Values, rows of items and rows of members are read alike.** The three scanners call each other with a smaller
bound, so one induction on the bound carries all of them. -/
theorem scan_unixLines (bound : Nat) :
    (∀ t, scanValue bound t.unixLines = onUnixLines (scanValue bound t)) ∧
      (∀ t, scanItems bound t.unixLines = onUnixLines (scanItems bound t)) ∧
      ∀ t, scanMembers bound t.unixLines = onUnixLines (scanMembers bound t) := by
  induction bound with
  | zero =>
    refine ⟨fun t => ?_, fun t => ?_, fun t => ?_⟩
    · rw [scanValue, scanValue]
      rfl
    · rw [scanItems, scanItems]
      rfl
    · rw [scanMembers, scanMembers]
      rfl
  | succ bound ih =>
    obtain ⟨hvalue, hitems, hmembers⟩ := ih
    exact ⟨scanValue_unixLines_succ hitems hmembers, scanItems_unixLines_succ hvalue hitems,
      scanMembers_unixLines_succ hvalue hmembers⟩

/-! ## Documents -/

/-- The bound that the length of the text gives is not the one that the rewritten text gives, but both are enough. -/
theorem scanDocument_unixLines (t : Text) :
    scanDocument t.unixLines = (scanDocument t).mapError Stop.unixLines := by
  have hshorter : (skipSpace t).unixLines.length ≤ t.unixLines.length := by
    rw [← skipSpace_unixLines]
    exact length_skipSpace_le t.unixLines
  have hlength := Text.length_unixLines_le t
  have hbound : scanValue (2 * t.unixLines.length + 2) (skipSpace t).unixLines =
      scanValue (2 * t.length + 2) (skipSpace t).unixLines := by
    apply scanValue_bound
    · omega
    · omega
  unfold scanDocument
  rw [after?_unixLines rfl, skipSpace_unixLines, hbound, (scan_unixLines _).1]
  cases after? (CodePoint.ofChar '\uFEFF') t with
  | some rest => rfl
  | none =>
    cases scanValue (2 * t.length + 2) (skipSpace t) with
    | error stop => rfl
    | ok p =>
      obtain ⟨value, rest⟩ := p
      simp only [Option.map_none, onUnixLines_ok, skipSpace_unixLines]
      cases hextra : skipSpace rest with
      | nil => rfl
      | cons c extra =>
        cases hrewritten : Text.unixLines (c :: extra) with
        | nil => exact absurd (Text.unixLines_eq_nil_iff.mp hrewritten) (List.cons_ne_nil c extra)
        | cons d more =>
          show _ = (.error (.malformed .extraData (Text.unixLines (c :: extra))) : Except Stop Json)
          rw [hrewritten]

/-- Two outcomes of decoding that differ at most in the place of a fault. -/
inductive SameButPlace : Except DecodeError Json → Except DecodeError Json → Prop where
  | document (v : Json) : SameButPlace (.ok v) (.ok v)
  | malformed (fault : Fault) (position position' : Position) :
      SameButPlace (.error (.malformed fault position)) (.error (.malformed fault position'))
  | oversizedInteger (digits : Nat) :
      SameButPlace (.error (.oversizedInteger digits)) (.error (.oversizedInteger digits))

namespace SameButPlace

variable {r r' : Except DecodeError Json}

theorem eq_ok_iff (h : SameButPlace r r') (v : Json) : r = .ok v ↔ r' = .ok v := by
  cases h with
  | document w => exact Iff.rfl
  | malformed fault position position' => exact ⟨fun h => (nomatch h), fun h => (nomatch h)⟩
  | oversizedInteger digits => exact Iff.rfl

theorem exists_malformed_iff (h : SameButPlace r r') (fault : Fault) :
    (∃ position, r = .error (.malformed fault position)) ↔
      ∃ position, r' = .error (.malformed fault position) := by
  cases h with
  | document w => exact Iff.rfl
  | oversizedInteger digits => exact Iff.rfl
  | malformed other position position' =>
    constructor
    · rintro ⟨_, h⟩
      cases h
      exact ⟨position', rfl⟩
    · rintro ⟨_, h⟩
      cases h
      exact ⟨position, rfl⟩

theorem eq_oversized_iff (h : SameButPlace r r') (digits : Nat) :
    r = .error (.oversizedInteger digits) ↔ r' = .error (.oversizedInteger digits) := by
  cases h with
  | document w => exact Iff.rfl
  | malformed fault position position' => exact ⟨fun h => (nomatch h), fun h => (nomatch h)⟩
  | oversizedInteger other => exact Iff.rfl

end SameButPlace

/-- **Line ends do not matter to a document.** With its line ends rewritten a text gives the same document, the same
fault, though maybe at another place, or the same integer with too many digits. -/
theorem decode_unixLines (t : Text) : SameButPlace (decode t.unixLines) (decode t) := by
  unfold decode
  rw [scanDocument_unixLines]
  cases scanDocument t with
  | ok v => exact .document v
  | error stop =>
    cases stop with
    | malformed fault rest => exact .malformed fault _ _
    | oversizedInteger digits => exact .oversizedInteger digits

end Json
end IntentLint

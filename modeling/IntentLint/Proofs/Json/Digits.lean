import IntentLint.Json.Decode

/-!
# `Proofs.Json.Digits` — integers with too many digits

Decoding stops for one reason that is no fault of the grammar: an integer with more digits than there may be.
It does so only where so many digits stand in the text in one row, since a scanner reads its input from the
front and hands on what is left of it.
-/

namespace IntentLint
namespace Json

/-- A row of `n` digits stands somewhere in a text. -/
def HasDigits (n : Nat) (t : Text) : Prop :=
  ∃ digits : Text, digits <:+: t ∧ digits.length = n ∧ ∀ d ∈ digits, d.isDigit = true

/-- What a scanner may do with its input: leave the end of it, or stop; and stop for an integer with too many
digits only when these are in the input. -/
def Within {α : Type} (t : Text) : Scan α → Prop
  | .ok (_, rest) => rest <:+ t
  | .error (.malformed _ _) => True
  | .error (.oversizedInteger n) => maxIntegerDigits < n ∧ HasDigits n t

variable {α β : Type} {t s : Text}

theorem HasDigits.of_suffix {n : Nat} (h : s <:+ t) (hs : HasDigits n s) : HasDigits n t := by
  obtain ⟨digits, hinfix, hlength, hdigits⟩ := hs
  exact ⟨digits, hinfix.trans h.isInfix, hlength, hdigits⟩

theorem Within.of_suffix {r : Scan α} (h : s <:+ t) (hs : Within s r) : Within t r := by
  match r, hs with
  | .ok (_, rest), hs => exact List.IsSuffix.trans hs h
  | .error (.malformed _ _), _ => trivial
  | .error (.oversizedInteger _), hs => exact ⟨hs.1, hs.2.of_suffix h⟩

/-- What is made of the value that was read does not matter. -/
theorem Within.map {r : Scan α} {f : α × Text → β × Text} (hf : ∀ p, (f p).2 = p.2) (h : Within t r) :
    Within t (r.map f) := by
  match r, h with
  | .ok (a, rest), h =>
    show (f (a, rest)).2 <:+ t
    rw [hf]
    exact h
  | .error (.malformed _ _), _ => trivial
  | .error (.oversizedInteger _), h => exact h

/-! ## Marks, texts and numbers -/

theorem skipSpace_suffix (t : Text) : skipSpace t <:+ t := List.dropWhile_suffix _

theorem after?_suffix {mark : CodePoint} {rest : Text} (h : after? mark t = some rest) : rest <:+ t := by
  cases t with
  | nil => cases h
  | cons c t =>
    rw [after?] at h
    by_cases hc : c = mark
    · rw [if_pos hc] at h
      cases h
      exact List.suffix_cons c _
    · rw [if_neg hc] at h
      cases h

theorem within_scanUnits (opening t : Text) : Within t (scanUnits opening t) := by
  fun_induction scanUnits opening t with
  | case1 => trivial
  | case2 rest => exact List.suffix_cons _ rest
  | case3 => trivial
  | case4 h₁ h₂ h₃ h₄ next rest _ _ _ ih =>
    -- what follows the four digits is scanned again, so it is kept
    have hrest : next :: rest <:+
        CodePoint.ofChar '\\' :: CodePoint.ofChar 'u' :: h₁ :: h₂ :: h₃ :: h₄ :: next :: rest :=
      ⟨[_, _, h₁, h₂, h₃, h₄], rfl⟩
    exact Within.of_suffix hrest (Within.map (fun _ => rfl) ih)
  | case5 => trivial
  | case6 => trivial
  | case7 e rest _ _ _ _ ih =>
    exact Within.of_suffix ⟨[_, e], rfl⟩ (Within.map (fun _ => rfl) ih)
  | case8 => trivial
  | case9 => trivial
  | case10 c rest _ _ _ ih =>
    exact Within.of_suffix (List.suffix_cons c rest) (Within.map (fun _ => rfl) ih)

theorem within_scanText (opening t : Text) : Within t (scanText opening t) :=
  (within_scanUnits opening t).map fun _ => rfl

/-- The digits before the point stand at the front of the input. -/
theorem scanWhole?_eq_some {whole rest : Text} (h : scanWhole? t = some (whole, rest)) :
    t = whole ++ rest ∧ ∀ d ∈ whole, d.isDigit = true := by
  cases t with
  | nil => cases h
  | cons c t =>
    rw [scanWhole?] at h
    by_cases hzero : c = CodePoint.ofChar '0'
    · rw [if_pos hzero] at h
      cases h
      subst hzero
      exact ⟨rfl, by decide⟩
    · rw [if_neg hzero] at h
      by_cases hdigit : c.isDigit = true
      · rw [if_pos hdigit] at h
        cases h
        refine ⟨by rw [List.cons_append, List.takeWhile_append_dropWhile], fun d hd => ?_⟩
        rcases List.mem_cons.mp hd with rfl | hd
        · exact hdigit
        · exact List.all_eq_true.mp List.all_takeWhile d hd
      · rw [if_neg hdigit] at h
        cases h

theorem scanFraction?_suffix {digits rest : Text} (h : scanFraction? t = some (digits, rest)) :
    rest <:+ t := by
  unfold scanFraction? at h
  obtain ⟨after, hafter, h⟩ := Option.bind_eq_some_iff.mp h
  split at h
  · cases h
  · cases h
    exact (List.dropWhile_suffix _).trans (after?_suffix hafter)

/-- Scans the digits of an exponent, after its sign. -/
def scanSize? (negative : Bool) (t : Text) : Option (Int × Text) :=
  match t.takeWhile CodePoint.isDigit with
  | [] => none
  | digits =>
    let size : Int := Text.digitsValue digits
    some (if negative then -size else size, t.dropWhile CodePoint.isDigit)

theorem scanSize?_suffix {negative : Bool} {exponent : Int} {rest : Text}
    (h : scanSize? negative t = some (exponent, rest)) : rest <:+ t := by
  unfold scanSize? at h
  split at h
  · cases h
  · cases h
    exact List.dropWhile_suffix _

theorem scanExponent?_eq (t : Text) :
    scanExponent? t = ((after? 'e' t).or (after? 'E' t)).bind fun rest =>
      match after? '-' rest, after? '+' rest with
      | some signed, _ => scanSize? true signed
      | none, some signed => scanSize? false signed
      | none, none => scanSize? false rest := by
  unfold scanExponent?
  refine congrArg _ (funext fun rest => ?_)
  cases after? '-' rest with
  | some signed => rfl
  | none => cases after? '+' rest <;> rfl

theorem scanExponent?_suffix {exponent : Int} {rest : Text} (h : scanExponent? t = some (exponent, rest)) :
    rest <:+ t := by
  rw [scanExponent?_eq] at h
  obtain ⟨after, hafter, h⟩ := Option.bind_eq_some_iff.mp h
  have hmark : after <:+ t := by
    rcases Option.or_eq_some_iff.mp hafter with he | ⟨-, hE⟩
    · exact after?_suffix he
    · exact after?_suffix hE
  split at h
  · next signed _ hminus =>
    exact (scanSize?_suffix h).trans ((after?_suffix hminus).trans hmark)
  · next signed _ hplus =>
    exact (scanSize?_suffix h).trans ((after?_suffix hplus).trans hmark)
  · exact (scanSize?_suffix h).trans hmark

/-- What a scanner reads where there may be nothing to read. -/
def orNothing (scan? : Text → Option (α × Text)) (t : Text) : Option α × Text :=
  match scan? t with
  | some (a, rest) => (some a, rest)
  | none => (none, t)

theorem orNothing_suffix {scan? : Text → Option (α × Text)}
    (hscan : ∀ {t a rest}, scan? t = some (a, rest) → rest <:+ t) (t : Text) :
    (orNothing scan? t).2 <:+ t := by
  unfold orNothing
  cases h : scan? t with
  | some p => exact hscan h
  | none => exact List.suffix_refl t

/-- Scans a number after its sign. `start` is the text from the sign on. -/
def scanUnsigned (negative : Bool) (start unsigned : Text) : Scan Number :=
  match scanWhole? unsigned with
  | none => .error (.malformed .expectedValue start)
  | some (whole, rest) =>
    let fraction := orNothing scanFraction? rest
    let exponent := orNothing scanExponent? fraction.2
    match fraction.1, exponent.1 with
    | none, none =>
      if maxIntegerDigits < whole.length then .error (.oversizedInteger whole.length)
      else
        let size : Int := Text.digitsValue whole
        .ok (.integer (if negative then -size else size), exponent.2)
    | _, _ =>
      let digits := fraction.1.getD []
      .ok (.decimal negative (Text.digitsValue (whole ++ digits))
        (exponent.1.getD 0 - digits.length), exponent.2)

theorem scanNumber_eq (t : Text) :
    scanNumber t =
      match after? (CodePoint.ofChar '-') t with
      | some unsigned => scanUnsigned true t unsigned
      | none => scanUnsigned false t t := by
  have hunsigned : ∀ (negative : Bool) (unsigned : Text),
      (match after? (CodePoint.ofChar '-') t with
        | some rest => (true, rest)
        | none => (false, t)) = (negative, unsigned) →
      scanNumber t = scanUnsigned negative t unsigned := by
    intro negative unsigned h
    unfold scanNumber scanUnsigned orNothing
    split
    next negative' unsigned' h' =>
      cases h.symm.trans h'
      cases scanWhole? unsigned with
      | none => rfl
      | some p =>
        simp only
        cases scanFraction? p.2 with
        | none => cases scanExponent? p.2 <;> rfl
        | some q => cases scanExponent? q.2 <;> rfl
  cases h : after? (CodePoint.ofChar '-') t with
  | some unsigned => exact hunsigned true unsigned (by rw [h])
  | none => exact hunsigned false t (by rw [h])

theorem within_scanUnsigned {unsigned : Text} (negative : Bool) (h : unsigned <:+ t) :
    Within t (scanUnsigned negative t unsigned) := by
  unfold scanUnsigned
  cases hwhole : scanWhole? unsigned with
  | none => trivial
  | some p =>
    obtain ⟨whole, rest⟩ := p
    obtain ⟨heq, hdigits⟩ := scanWhole?_eq_some hwhole
    subst heq
    have hend : (orNothing scanExponent? (orNothing scanFraction? rest).2).2 <:+ t :=
      (orNothing_suffix scanExponent?_suffix _).trans
        ((orNothing_suffix scanFraction?_suffix rest).trans ((List.suffix_append whole rest).trans h))
    simp only
    split
    · split
      · next hlong =>
        exact ⟨hlong, whole, (List.prefix_append whole rest).isInfix.trans h.isInfix, rfl, hdigits⟩
      · exact hend
    · exact hend

/-- **A number that is too long stands in the input**, and any other leaves the end of the input. -/
theorem within_scanNumber (t : Text) : Within t (scanNumber t) := by
  rw [scanNumber_eq]
  cases h : after? (CodePoint.ofChar '-') t with
  | some unsigned => exact within_scanUnsigned true (after?_suffix h)
  | none => exact within_scanUnsigned false (List.suffix_refl t)

/-! ## Values -/

theorem isPrefixOf?_suffix {word rest : Text} (h : word.isPrefixOf? t = some rest) : rest <:+ t := by
  induction word generalizing t with
  | nil =>
    cases h
    exact List.suffix_refl _
  | cons c word ih =>
    cases t with
    | nil => cases h
    | cons d t =>
      have hstep : (if (c == d) = true then word.isPrefixOf? t else none) = some rest := h
      by_cases hcd : (c == d) = true
      · rw [if_pos hcd] at hstep
        exact (ih hstep).trans (List.suffix_cons d t)
      · rw [if_neg hcd] at hstep
        cases hstep

theorem scanWord?_suffix {v : Json} {rest : Text} (h : scanWord? t = some (v, rest)) : rest <:+ t := by
  unfold scanWord? at h
  obtain ⟨⟨word, value⟩, -, hword⟩ := List.exists_of_findSome?_eq_some h
  obtain ⟨after, hafter, h⟩ := Option.map_eq_some_iff.mp hword
  cases h
  exact isPrefixOf?_suffix hafter

/-- A stop is the same whatever was to be read. -/
theorem Within.error {α β : Type} {stop : Stop} (h : Within t (.error stop : Scan α)) :
    Within t (.error stop : Scan β) := by
  cases stop with
  | malformed fault rest => trivial
  | oversizedInteger n => exact h

theorem skipSpace_after?_suffix {mark : CodePoint} {rest after : Text} (hs : rest <:+ t)
    (h : after? mark (skipSpace rest) = some after) : after <:+ t :=
  (after?_suffix h).trans ((skipSpace_suffix rest).trans hs)

variable {bound : Nat}

theorem within_scanValue_succ (hitems : ∀ t, Within t (scanItems bound t))
    (hmembers : ∀ t, Within t (scanMembers bound t)) (t : Text) :
    Within t (scanValue (bound + 1) t) := by
  cases t with
  | nil => rw [scanValue]; trivial
  | cons c rest =>
    have hrest : rest <:+ c :: rest := List.suffix_cons c rest
    have hspace : skipSpace rest <:+ c :: rest := (skipSpace_suffix rest).trans hrest
    rw [scanValue]
    split
    · exact ((within_scanText (c :: rest) rest).of_suffix hrest).map fun _ => rfl
    · split
      · split
        · next after hafter => exact skipSpace_after?_suffix hrest hafter
        · exact ((hmembers _).of_suffix hspace).map fun _ => rfl
      · split
        · split
          · next after hafter => exact skipSpace_after?_suffix hrest hafter
          · exact ((hitems _).of_suffix hspace).map fun _ => rfl
        · split
          · next found hfound => exact scanWord?_suffix hfound
          · exact (within_scanNumber (c :: rest)).map fun _ => rfl

theorem within_scanItems_succ (hvalue : ∀ t, Within t (scanValue bound t))
    (hitems : ∀ t, Within t (scanItems bound t)) (t : Text) :
    Within t (scanItems (bound + 1) t) := by
  have hitem := hvalue t
  rw [scanItems]
  cases h : scanValue bound t with
  | error stop =>
    rw [h] at hitem
    exact hitem.error
  | ok p =>
    obtain ⟨item, rest⟩ := p
    rw [h] at hitem
    have hrest : rest <:+ t := hitem
    simp only
    split
    · next after _ hafter => exact skipSpace_after?_suffix hrest hafter
    · next next _ hnext =>
      have hsuffix := (skipSpace_suffix next).trans (skipSpace_after?_suffix hrest hnext)
      exact ((hitems _).of_suffix hsuffix).map fun _ => rfl
    · trivial

theorem within_scanMembers_succ (hvalue : ∀ t, Within t (scanValue bound t))
    (hmembers : ∀ t, Within t (scanMembers bound t)) (t : Text) :
    Within t (scanMembers (bound + 1) t) := by
  cases t with
  | nil => rw [scanMembers]; trivial
  | cons c t =>
    rw [scanMembers]
    split
    · have hname := (within_scanText (c :: t) t).of_suffix (List.suffix_cons c t)
      cases h : scanText (c :: t) t with
      | error stop =>
        rw [h] at hname
        exact hname.error
      | ok p =>
        obtain ⟨name, rest⟩ := p
        rw [h] at hname
        have hrest : rest <:+ c :: t := hname
        simp only
        cases hcolon : after? (CodePoint.ofChar ':') (skipSpace rest) with
        | none => trivial
        | some colon =>
          have hstart := (skipSpace_suffix colon).trans (skipSpace_after?_suffix hrest hcolon)
          have hread := (hvalue (skipSpace colon)).of_suffix hstart
          simp only
          cases hv : scanValue bound (skipSpace colon) with
          | error stop =>
            rw [hv] at hread
            exact hread.error
          | ok q =>
            obtain ⟨value, left⟩ := q
            rw [hv] at hread
            have hleft : left <:+ c :: t := hread
            simp only
            split
            · next after _ hafter => exact skipSpace_after?_suffix hleft hafter
            · next next _ hnext =>
              have hsuffix := (skipSpace_suffix next).trans (skipSpace_after?_suffix hleft hnext)
              exact ((hmembers _).of_suffix hsuffix).map fun _ => rfl
            · trivial
    · trivial

/-- **A value, a row of items and a row of members are read from the front.** The three scanners call each
other with a smaller bound, so one induction on the bound carries all of them. -/
theorem within_scan (bound : Nat) :
    (∀ t, Within t (scanValue bound t)) ∧ (∀ t, Within t (scanItems bound t)) ∧
      ∀ t, Within t (scanMembers bound t) := by
  induction bound with
  | zero =>
    refine ⟨fun t => ?_, fun t => ?_, fun t => ?_⟩
    · rw [scanValue]; trivial
    · rw [scanItems]; trivial
    · rw [scanMembers]; trivial
  | succ bound ih =>
    obtain ⟨hvalue, hitems, hmembers⟩ := ih
    exact ⟨within_scanValue_succ hitems hmembers, within_scanItems_succ hvalue hitems,
      within_scanMembers_succ hvalue hmembers⟩

/-! ## Documents -/

/-- **Only a row of too many digits stops decoding without a fault.** The row stands in the text, and it has
the number of digits that the error tells. -/
theorem decode_oversized {n : Nat} (h : decode t = .error (.oversizedInteger n)) :
    maxIntegerDigits < n ∧ HasDigits n t := by
  have hstop : scanDocument t = .error (.oversizedInteger n) := by
    unfold decode at h
    cases hs : scanDocument t with
    | ok v => rw [hs] at h; cases h
    | error stop =>
      rw [hs] at h
      cases stop with
      | malformed fault rest => cases h
      | oversizedInteger m => cases h; rfl
  unfold scanDocument at hstop
  have hvalue := ((within_scan (2 * t.length + 2)).1 (skipSpace t)).of_suffix (skipSpace_suffix t)
  split at hstop
  · cases hstop
  · split at hstop
    · next stop hs =>
      cases hstop
      rw [hs] at hvalue
      exact hvalue
    · split at hstop
      · cases hstop
      · cases hstop

theorem ne_of_isDigit {c d : CodePoint} (hc : c.isDigit = true) (hd : d.isDigit = false) : c ≠ d := by
  rintro rfl
  rw [hc] at hd
  cases hd

theorem scanWord?_of_isDigit {c : CodePoint} (hc : c.isDigit = true) (rest : Text) :
    scanWord? (c :: rest) = none := by
  have hstart : ∀ p ∈ words, p.1.head?.map CodePoint.isDigit = some false := by decide
  refine List.findSome?_eq_none_iff.mpr fun ⟨word, value⟩ hp => ?_
  have hword := hstart _ hp
  cases word with
  | nil => cases hword
  | cons d word =>
    have hne : ¬ (d == c) = true := fun h => ne_of_isDigit hc (Option.some.inj hword) (eq_of_beq h).symm
    show (if (d == c) = true then word.isPrefixOf? rest else none).map _ = none
    rw [if_neg hne]
    rfl

/-- A row of too many digits alone stops decoding, unless it starts with a zero. -/
theorem decode_long_integer {c : CodePoint} {rest : Text} (hdigits : ∀ d ∈ c :: rest, d.isDigit = true)
    (hzero : c ≠ CodePoint.ofChar '0') (hlong : maxIntegerDigits < (c :: rest).length) :
    decode (c :: rest) = .error (.oversizedInteger (c :: rest).length) := by
  have hc := hdigits c List.mem_cons_self
  have hne : ∀ mark : CodePoint, mark.isDigit = false → c ≠ mark := fun mark => ne_of_isDigit hc
  have hrest : ∀ d ∈ rest, d.isDigit = true := fun d hd => hdigits d (List.mem_cons_of_mem _ hd)
  have hwhole : scanWhole? (c :: rest) = some (c :: rest, []) := by
    have htake : rest.takeWhile CodePoint.isDigit = rest := by
      have happend : (rest ++ []).takeWhile CodePoint.isDigit = rest ++ [] :=
        List.takeWhile_append_of_pos hrest
      rwa [List.append_nil] at happend
    have hdrop : rest.dropWhile CodePoint.isDigit = [] := by
      have happend : (rest ++ []).dropWhile CodePoint.isDigit = [] := List.dropWhile_append_of_pos hrest
      rwa [List.append_nil] at happend
    rw [scanWhole?, if_neg hzero, if_pos hc, htake, hdrop]
  have hnumber : scanNumber (c :: rest) = .error (.oversizedInteger (c :: rest).length) := by
    rw [scanNumber_eq, after?, if_neg (hne _ (by decide))]
    simp only [scanUnsigned, hwhole]
    exact if_pos hlong
  -- a digit opens no text, no object, no array and no word
  have hvalue : ∀ bound, scanValue (bound + 1) (c :: rest) =
      .error (.oversizedInteger (c :: rest).length) := by
    intro bound
    rw [scanValue, if_neg (hne _ (by decide)), if_neg (hne _ (by decide)), if_neg (hne _ (by decide)),
      scanWord?_of_isDigit hc, hnumber]
    rfl
  have hspace : skipSpace (c :: rest) = c :: rest := by
    have hnot : isSpace c = false := by
      simp only [isSpace, decide_eq_false (hne (CodePoint.ofChar ' ') (by decide)),
        decide_eq_false (hne (CodePoint.ofChar '\t') (by decide)),
        decide_eq_false (hne (CodePoint.ofChar '\n') (by decide)),
        decide_eq_false (hne (CodePoint.ofChar '\r') (by decide)), Bool.or_self]
    rw [skipSpace, List.dropWhile_cons_of_neg (by rw [hnot]; exact Bool.false_ne_true)]
  unfold decode scanDocument
  rw [after?, if_neg (hne _ (by decide)), hspace]
  simp only [hvalue]
  rfl

theorem decode_replicate_one {n : Nat} (h : maxIntegerDigits < n) :
    decode (List.replicate n (CodePoint.ofChar '1')) = .error (.oversizedInteger n) := by
  cases n with
  | zero => exact absurd h (Nat.not_lt_zero _)
  | succ n =>
    have hdigits : ∀ d ∈ CodePoint.ofChar '1' :: List.replicate n (CodePoint.ofChar '1'),
        d.isDigit = true := by
      intro d hd
      rw [← List.replicate_succ] at hd
      rw [List.eq_of_mem_replicate hd]
      rfl
    have hlength : (CodePoint.ofChar '1' :: List.replicate n (CodePoint.ofChar '1')).length = n + 1 := by
      rw [List.length_cons, List.length_replicate]
    have hdecode := decode_long_integer hdigits (by decide) (by rw [hlength]; exact h)
    rw [hlength] at hdecode
    exact hdecode

end Json
end IntentLint

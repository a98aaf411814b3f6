import IntentLint.Json.Render
import IntentLint.Proofs.Json.Strict
import IntentLint.Proofs.Json.Units
import IntentLint.Proofs.Text.Numeral
import Mathlib.Data.List.TakeDrop

/-!
# `Proofs.Json.RoundTrip` — what is written is read back

A document that is written over several lines, with text as it is, is JSON to the letter and reads back as itself
(`Strict.decode?_render`), whatever the code points of its texts are. Quotes, backslashes and controls are written
as escapes, and reading an escape gives the code point it stands for. A numeral ends where the comma or the break
behind it begins. Arrays and objects are read back item by item and member by member.

Left out are decimal numbers, and objects in which a name repeats.
-/

namespace IntentLint
namespace Json

/-! ## Texts -/

theorem hexValue?_ofHexValue {n : Nat} (h : n < 16) : (CodePoint.ofHexValue n).hexValue? = some n := by
  have hall : ∀ m : Fin 16, (CodePoint.ofHexValue m.val).hexValue? = some m.val := by decide
  exact hall ⟨n, h⟩

/-- Four hexadecimal digits number the code point they were made from. -/
theorem ofHexDigits?_hex {c : CodePoint} (h : c.val ≤ 0xFFFF) :
    ∃ h₁ h₂ h₃ h₄, Text.hex 4 c.val = [h₁, h₂, h₃, h₄] ∧ ofHexDigits? h₁ h₂ h₃ h₄ = some c := by
  refine ⟨_, _, _, _, rfl, ?_⟩
  have hvalue : ((c.val / 16 ^ 3 % 16 * 16 + c.val / 16 ^ 2 % 16) * 16 + c.val / 16 ^ 1 % 16) * 16 +
      c.val / 16 ^ 0 % 16 = c.val := by
    omega
  unfold ofHexDigits?
  rw [hexValue?_ofHexValue (Nat.mod_lt _ (by decide)), hexValue?_ofHexValue (Nat.mod_lt _ (by decide)),
    hexValue?_ofHexValue (Nat.mod_lt _ (by decide)), hexValue?_ofHexValue (Nat.mod_lt _ (by decide))]
  simp only
  rw [hvalue, CodePoint.ofNat_val]

/-- The code points that are escaped by a letter. -/
def lettered : List CodePoint := ['"', '\\', '\n', '\r', '\t', '\x0C', '\x08']

/-- A code point between quotes is read back. Only a control is ever numbered. -/
theorem scanUnits_renderPoint (c : CodePoint) :
    ∃ numbered : Bool, (numbered = true → c.val < 0x20) ∧ ∀ opening more : Text, more ≠ [] →
      scanUnits opening (renderPoint false c ++ more) =
        (scanUnits opening more).map fun (units, after) => (⟨c, numbered⟩ :: units, after) := by
  by_cases hletter : c ∈ lettered
  · refine ⟨false, nofun, fun opening more _ => ?_⟩
    have hescape : ∀ d ∈ lettered, ∃ e, renderPoint false d = [CodePoint.ofChar '\\', e] ∧
        e ≠ CodePoint.ofChar 'u' ∧ letterEscape? e = some d := by
      simp only [lettered, List.forall_mem_cons]
      refine ⟨⟨_, rfl, ?_⟩, ⟨_, rfl, ?_⟩, ⟨_, rfl, ?_⟩, ⟨_, rfl, ?_⟩, ⟨_, rfl, ?_⟩, ⟨_, rfl, ?_⟩,
        ⟨_, rfl, ?_⟩, fun _ hmem => absurd hmem List.not_mem_nil⟩ <;> decide
    obtain ⟨e, hrender, hnumbered, hletter⟩ := hescape c hletter
    rw [hrender]
    exact scanUnits_letter hnumbered hletter opening more
  · simp only [lettered, List.mem_cons, List.not_mem_nil, or_false, not_or] at hletter
    obtain ⟨hquote, hslash, hfeed, hreturn, htab, hform, hback⟩ := hletter
    have hrender : renderPoint false c = if c.val < 0x20 then numberedEscape c else [c] := by
      unfold renderPoint
      rw [if_neg hquote, if_neg hslash, if_neg hfeed, if_neg hreturn, if_neg htab, if_neg hform, if_neg hback]
      simp
    by_cases hcontrol : c.val < 0x20
    · refine ⟨true, fun _ => hcontrol, fun opening more hmore => ?_⟩
      obtain ⟨next, later, rfl⟩ := List.exists_cons_of_ne_nil hmore
      obtain ⟨h₁, h₂, h₃, h₄, hhex, hdigits⟩ := ofHexDigits?_hex (by omega : c.val ≤ 0xFFFF)
      have hescape : renderPoint false c = [CodePoint.ofChar '\\', CodePoint.ofChar 'u', h₁, h₂, h₃, h₄] := by
        rw [hrender, if_pos hcontrol, numberedEscape, if_pos (by omega), hhex]
        rfl
      rw [hescape]
      show scanUnits opening (CodePoint.ofChar '\\' :: CodePoint.ofChar 'u' :: h₁ :: h₂ :: h₃ :: h₄ :: next ::
        later) = _
      rw [scanUnits_numbered, numbered?_of_digits, hdigits]
      rfl
    · refine ⟨false, nofun, fun opening more _ => ?_⟩
      rw [hrender, if_neg hcontrol, List.singleton_append, scanUnits_plain hquote hslash hcontrol]

/-- Code points of which none is half of a numbered pair stand for themselves. -/
theorem joinPairs_of_numbered {units : List TextUnit}
    (h : ∀ u ∈ units, u.numbered = true → u.point.val < 0x20) :
    joinPairs units = units.map TextUnit.point := by
  induction units using joinPairs.induct with
  | case1 => rfl
  | case2 u => rfl
  | case3 u v rest hpair ih =>
    -- the half of a pair would be a control
    simp only [Bool.and_eq_true] at hpair
    have hlow := h u List.mem_cons_self hpair.1.1.1
    have hhigh := hpair.1.2
    simp only [CodePoint.isHighSurrogate, Bool.and_eq_true, decide_eq_true_eq] at hhigh
    omega
  | case4 u v rest hpair ih =>
    rw [joinPairs, if_neg hpair, ih fun w hw => h w (List.mem_cons_of_mem _ hw)]
    rfl

/-- **A text between quotes is read back**, whatever follows it. -/
theorem scanText_render (opening t rest : Text) :
    scanText opening (t.flatMap (renderPoint false) ++ CodePoint.ofChar '"' :: rest) = .ok (t, rest) := by
  have hunits : ∃ units : List TextUnit, units.map TextUnit.point = t ∧
      (∀ u ∈ units, u.numbered = true → u.point.val < 0x20) ∧
      scanUnits opening (t.flatMap (renderPoint false) ++ CodePoint.ofChar '"' :: rest) =
        .ok (units, rest) := by
    induction t with
    | nil => exact ⟨[], rfl, fun _ hmem => absurd hmem List.not_mem_nil, scanUnits_quote opening rest⟩
    | cons c t ih =>
      obtain ⟨units, hpoints, hcontrols, hscan⟩ := ih
      obtain ⟨numbered, hcontrol, hpoint⟩ := scanUnits_renderPoint c
      refine ⟨⟨c, numbered⟩ :: units, by rw [List.map_cons, hpoints], ?_, ?_⟩
      · exact List.forall_mem_cons.mpr ⟨hcontrol, hcontrols⟩
      · rw [List.flatMap_cons, List.append_assoc, hpoint _ _ (by simp), hscan]
        rfl
  obtain ⟨units, hpoints, hcontrols, hscan⟩ := hunits
  rw [scanText, hscan, ← hpoints, ← joinPairs_of_numbered hcontrols]
  rfl

/-! ## Numbers -/

/-- What stands behind an item or a member, or behind the whole document: a comma or a break. -/
inductive Ended : Text → Prop
  | comma (rest : Text) : Ended (CodePoint.ofChar ',' :: rest)
  | lineBreak (rest : Text) : Ended (CodePoint.ofChar '\n' :: rest)

variable {rest : Text}

/-- The digits of a numeral end where it ends. -/
theorem scanWhole?_ofNat (n : Nat) (h : Ended rest) :
    scanWhole? (Text.ofNat n ++ rest) = some (Text.ofNat n, rest) := by
  by_cases hzero : n = 0
  · subst hzero
    rfl
  · obtain ⟨c, more, hcons, hc⟩ := Text.head_ofNat hzero
    have hdigits : ∀ d ∈ c :: more, d.isDigit = true := by
      rw [← hcons]
      exact fun d hd => Text.isDigit_of_mem_ofNat hd
    have hmore : ∀ d ∈ more, d.isDigit = true := fun d hd => hdigits d (List.mem_cons_of_mem _ hd)
    have htake : rest.takeWhile CodePoint.isDigit = [] := by cases h <;> rfl
    have hdrop : rest.dropWhile CodePoint.isDigit = rest := by cases h <;> rfl
    rw [hcons, List.cons_append, scanWhole?, if_neg hc, if_pos (hdigits c List.mem_cons_self),
      List.takeWhile_append_of_pos hmore, List.dropWhile_append_of_pos hmore, htake, hdrop, List.append_nil]

/-- **An integer is read back.** -/
theorem number?_ofInt (n : Int) (h : Ended rest) :
    Strict.number? (Text.ofInt n ++ rest) = some (.integer n, rest) := by
  have hfraction : orNothing scanFraction? rest = (none, rest) := by cases h <;> rfl
  have hexponent : orNothing scanExponent? rest = (none, rest) := by cases h <;> rfl
  have hunsigned : ∀ negative, Strict.unsigned? negative (Text.ofNat n.natAbs ++ rest) =
      some (.integer (if negative then -(n.natAbs : Int) else n.natAbs), rest) := by
    intro negative
    rw [Strict.unsigned?, scanWhole?_ofNat _ h, Option.map_some]
    simp only [hfraction, hexponent, Text.digitsValue_ofNat]
  obtain ⟨c, more, hcons, hhead⟩ := Text.head_ofInt n
  rcases hhead with ⟨-, hneg⟩ | ⟨hdigit, hpos⟩
  · have hnat : -(n.natAbs : Int) = n := by omega
    unfold Strict.number? Text.ofInt
    rw [if_pos hneg, List.cons_append, after?, if_pos rfl]
    simp only
    rw [hunsigned, if_pos rfl, hnat]
  · have hnat : (n.natAbs : Int) = n := by omega
    have hofInt : Text.ofInt n = Text.ofNat n.natAbs := if_neg (by omega)
    have hsign : after? (CodePoint.ofChar '-') (Text.ofInt n ++ rest) = none := by
      rw [hcons, List.cons_append, after?, if_neg (ne_of_isDigit hdigit (by decide))]
    unfold Strict.number?
    rw [hsign, hofInt]
    simp only
    rw [hunsigned, if_neg Bool.false_ne_true, hnat]

/-! ## Layout -/

theorem skipSpace_cons {c : CodePoint} (h : isSpace c = false) (t : Text) : skipSpace (c :: t) = c :: t := by
  rw [skipSpace, List.dropWhile_cons_of_neg (by rw [h]; exact Bool.false_ne_true)]

theorem skipSpace_lineBreak (depth : Nat) (t : Text) :
    skipSpace (Style.block.lineBreak depth ++ t) = skipSpace t := by
  have hbreak : Style.block.lineBreak depth =
      CodePoint.ofChar '\n' :: List.replicate (2 * depth) (CodePoint.ofChar ' ') := rfl
  have hspaces : ∀ c ∈ Style.block.lineBreak depth, isSpace c = true := by
    rw [hbreak, List.forall_mem_cons]
    refine ⟨by decide, fun c hc => ?_⟩
    rw [List.eq_of_mem_replicate hc]
    decide
  exact List.dropWhile_append_of_pos hspaces

theorem after?_self (mark : CodePoint) (t : Text) : after? mark (mark :: t) = some t := if_pos rfl

theorem after?_ne {c mark : CodePoint} (h : c ≠ mark) (t : Text) : after? mark (c :: t) = none := if_neg h

theorem skipSpace_space (t : Text) : skipSpace (CodePoint.ofChar ' ' :: t) = skipSpace t :=
  List.dropWhile_cons_of_pos (by decide)

/-! ## Documents -/

/-- A document is written and read back: it begins with something that is no blank and closes no list, and where
it ends, reading it by the letter gives the document. -/
structure ReadBack (v : Json) : Prop where
  opens : ∀ depth, ∃ c t, renderAt .block depth v = c :: t ∧ isSpace c = false ∧ c ≠ CodePoint.ofChar ']'
  read : ∀ depth bound rest, Ended rest → 2 * (renderAt .block depth v).length ≤ bound →
    Strict.value? bound (renderAt .block depth v ++ rest) = some (v, rest)

namespace ReadBack

/-- The code points that open a text, an object or a list, or close a list. -/
def marks : List CodePoint := ['"', '\x7b', '[', ']']

/-- A document that is written as one word is read back if it is the word or the number there. -/
theorem atom {v : Json} {c : CodePoint} {more : Text} (hrender : ∀ depth, renderAt .block depth v = c :: more)
    (hspace : isSpace c = false) (hmarks : ∀ mark ∈ marks, c ≠ mark)
    (hread : ∀ rest, Ended rest → (Strict.word? (c :: more ++ rest)).or
      ((Strict.number? (c :: more ++ rest)).map fun (n, after) => (.number n, after)) = some (v, rest)) :
    ReadBack v := by
  refine ⟨fun depth => ⟨c, more, hrender depth, hspace, hmarks _ (by decide)⟩,
    fun depth bound rest hrest hbound => ?_⟩
  rw [hrender] at hbound ⊢
  cases bound with
  | zero => exact absurd hbound (by simp)
  | succ bound =>
    rw [List.cons_append, Strict.value?, if_neg (hmarks _ (by decide)), if_neg (hmarks _ (by decide)),
      if_neg (hmarks _ (by decide))]
    exact hread rest hrest

theorem null : ReadBack .null :=
  atom (fun _ => rfl) (by decide) (by decide) fun _ _ => rfl

theorem bool (value : Bool) : ReadBack (.bool value) := by
  cases value with
  | true => exact atom (fun _ => rfl) (by decide) (by decide) fun _ _ => rfl
  | false => exact atom (fun _ => rfl) (by decide) (by decide) fun _ _ => rfl

theorem integer (n : Int) : ReadBack (.number (.integer n)) := by
  obtain ⟨c, more, hcons, hhead⟩ := Text.head_ofInt n
  have hne : ∀ mark : CodePoint, mark.isDigit = false → mark ≠ CodePoint.ofChar '-' → c ≠ mark := by
    intro mark hmark hminus
    rcases hhead with ⟨rfl, -⟩ | ⟨hdigit, -⟩
    · exact hminus.symm
    · exact ne_of_isDigit hdigit hmark
  have hspace : isSpace c = false := by
    simp only [isSpace, decide_eq_false (hne (CodePoint.ofChar ' ') (by decide) (by decide)),
      decide_eq_false (hne (CodePoint.ofChar '\t') (by decide) (by decide)),
      decide_eq_false (hne (CodePoint.ofChar '\n') (by decide) (by decide)),
      decide_eq_false (hne (CodePoint.ofChar '\r') (by decide) (by decide)), Bool.or_self]
  have hmarks : ∀ mark ∈ marks, c ≠ mark := by
    have hall : ∀ mark ∈ marks, mark.isDigit = false ∧ mark ≠ CodePoint.ofChar '-' := by decide
    exact fun mark hmark => hne mark (hall mark hmark).1 (hall mark hmark).2
  refine atom (fun _ => hcons) hspace hmarks fun rest hrest => ?_
  have hnumber := number?_ofInt n hrest
  rw [← hcons]
  cases hword : Strict.word? (Text.ofInt n ++ rest) with
  | none => rw [hnumber, Option.none_or, Option.map_some]
  | some found =>
    -- no number is a word
    have hscan := Strict.scanWord?_of_word? hword
    rw [Strict.scanWord?_of_number? hnumber] at hscan
    cases hscan

theorem text (t : Text) : ReadBack (.text t) := by
  have hrender : ∀ depth, renderAt .block depth (.text t) =
      CodePoint.ofChar '"' :: (t.flatMap (renderPoint false) ++ [CodePoint.ofChar '"']) := by
    intro depth
    rw [renderAt]
    rfl
  refine ⟨fun depth => ⟨_, _, hrender depth, by decide, by decide⟩, fun depth bound rest _ hbound => ?_⟩
  rw [hrender] at hbound ⊢
  cases bound with
  | zero => exact absurd hbound (by simp)
  | succ bound =>
    rw [List.cons_append, List.append_assoc, List.singleton_append, Strict.value?, if_pos rfl,
      scanText_render]
    rfl

/-- Behind an item there is a comma or a break, and behind a member too. -/
theorem ended_items (items : List Json) (depth outer : Nat) (rest : Text) :
    Ended (renderItems .block depth items ++ (Style.block.lineBreak outer ++ rest)) := by
  cases items with
  | nil => exact .lineBreak _
  | cons item items =>
    rw [renderItems]
    exact .comma _

theorem ended_members (members : List (Text × Json)) (depth outer : Nat) (rest : Text) :
    Ended (renderMembers .block depth members ++ (Style.block.lineBreak outer ++ rest)) := by
  cases members with
  | nil => exact .lineBreak _
  | cons member members =>
    rw [renderMembers]
    exact .comma _

/-- A document is found behind blanks, and it closes no list. -/
theorem skipSpace_renderAt {v : Json} (h : ReadBack v) (depth : Nat) (rest : Text) :
    skipSpace (renderAt .block depth v ++ rest) = renderAt .block depth v ++ rest ∧
      after? (CodePoint.ofChar ']') (renderAt .block depth v ++ rest) = none := by
  obtain ⟨c, t, hcons, hspace, hclose⟩ := h.opens depth
  rw [hcons, List.cons_append]
  exact ⟨skipSpace_cons hspace _, after?_ne hclose _⟩

/-- Items are read back, up to the bracket that closes their list. -/
theorem items?_render {item : Json} {items : List Json} (h : ∀ v ∈ item :: items, ReadBack v)
    (depth outer bound : Nat) (rest : Text)
    (hbound : 2 * ((renderAt .block depth item).length + (renderItems .block depth items).length) + 1 ≤ bound) :
    Strict.items? bound (renderAt .block depth item ++ (renderItems .block depth items ++
      (Style.block.lineBreak outer ++ CodePoint.ofChar ']' :: rest))) = some (item :: items, rest) := by
  induction items generalizing item bound with
  | nil =>
    cases bound with
    | zero => omega
    | succ bound =>
      have hitem := (h item List.mem_cons_self).read depth bound _
        (ended_items [] depth outer (CodePoint.ofChar ']' :: rest)) (by omega)
      rw [Strict.items?, hitem, Option.bind_some]
      simp only [renderItems, List.nil_append, skipSpace_lineBreak]
      rw [skipSpace_cons (by decide), after?_self]
  | cons next items ih =>
    cases bound with
    | zero => omega
    | succ bound =>
      have hseparator : Style.block.separator depth = CodePoint.ofChar ',' :: Style.block.lineBreak depth := rfl
      have hlater : ∀ v ∈ next :: items, ReadBack v := fun v hv => h v (List.mem_cons_of_mem item hv)
      have hitem := (h item List.mem_cons_self).read depth bound _
        (ended_items (next :: items) depth outer (CodePoint.ofChar ']' :: rest)) (by omega)
      -- the comma leaves the reader a call for the next item
      have hitems := ih hlater bound (by
        rw [renderItems, hseparator, List.cons_append, List.length_append, List.length_cons,
          List.length_append] at hbound
        omega)
      have hnext := (skipSpace_renderAt (hlater next List.mem_cons_self) depth
        (renderItems .block depth items ++ (Style.block.lineBreak outer ++ CodePoint.ofChar ']' :: rest))).1
      rw [Strict.items?, hitem, Option.bind_some]
      simp only [renderItems, hseparator, List.cons_append, List.append_assoc]
      rw [skipSpace_cons (by decide), after?_ne (by decide), after?_self]
      simp only
      rw [skipSpace_lineBreak, hnext, hitems, Option.map_some]

/-- A member as it is written: its name and its value. -/
def renderMember (depth : Nat) (member : Text × Json) : Text :=
  renderText false member.1 ++ ": " ++ renderAt .block depth member.2

theorem renderMember_eq (depth : Nat) (member : Text × Json) :
    renderMember depth member = CodePoint.ofChar '"' :: (member.1.flatMap (renderPoint false) ++
      CodePoint.ofChar '"' :: CodePoint.ofChar ':' :: CodePoint.ofChar ' ' ::
        renderAt .block depth member.2) := by
  have hcolon : (": " : Text) = [CodePoint.ofChar ':', CodePoint.ofChar ' '] := rfl
  rw [renderMember, renderText, hcolon]
  simp only [List.cons_append, List.nil_append, List.append_assoc]

/-- One member is read back, and reading goes on behind it. -/
theorem members?_renderMember {member : Text × Json} (h : ReadBack member.2) {depth bound : Nat} {tail : Text}
    (htail : Ended tail) (hbound : 2 * (renderAt .block depth member.2).length ≤ bound) :
    Strict.members? (bound + 1) (renderMember depth member ++ tail) =
      match after? (CodePoint.ofChar '\x7d') (skipSpace tail), after? (CodePoint.ofChar ',') (skipSpace tail) with
      | some after, _ => some ([member], after)
      | none, some next =>
        (Strict.members? bound (skipSpace next)).map fun (members, after) => (member :: members, after)
      | none, none => none := by
  have hvalue := h.read depth bound tail htail hbound
  have hskip := (skipSpace_renderAt h depth tail).1
  rw [renderMember_eq]
  simp only [List.cons_append, List.append_assoc]
  rw [Strict.members?, if_pos rfl, scanText_render]
  simp only [Except.toOption, Option.bind_some]
  rw [skipSpace_cons (by decide), after?_self, Option.bind_some, skipSpace_space, hskip, hvalue]
  rfl

theorem length_renderMember (depth : Nat) (member : Text × Json) :
    (renderAt .block depth member.2).length < (renderMember depth member).length := by
  rw [renderMember_eq]
  simp only [List.length_cons, List.length_append]
  omega

/-- Members are read back, up to the brace that closes their object. -/
theorem members?_render {member : Text × Json} {members : List (Text × Json)}
    (h : ∀ m ∈ member :: members, ReadBack m.2) (depth outer bound : Nat) (rest : Text)
    (hbound : 2 * ((renderMember depth member).length + (renderMembers .block depth members).length) ≤ bound) :
    Strict.members? bound (renderMember depth member ++ (renderMembers .block depth members ++
      (Style.block.lineBreak outer ++ CodePoint.ofChar '\x7d' :: rest))) = some (member :: members, rest) := by
  have hlength := length_renderMember depth member
  induction members generalizing member bound with
  | nil =>
    cases bound with
    | zero => omega
    | succ bound =>
      rw [members?_renderMember (h member List.mem_cons_self) (ended_members [] depth outer _) (by omega)]
      simp only [renderMembers, List.nil_append, skipSpace_lineBreak]
      rw [skipSpace_cons (by decide), after?_self]
  | cons next members ih =>
    have hseparator : Style.block.separator depth = CodePoint.ofChar ',' :: Style.block.lineBreak depth := rfl
    have hrender : renderMembers .block depth (next :: members) = CodePoint.ofChar ',' ::
        (Style.block.lineBreak depth ++ (renderMember depth next ++ renderMembers .block depth members)) := by
      obtain ⟨name, value⟩ := next
      rw [renderMembers, hseparator]
      show _ ++ renderMember depth (name, value) ++ renderMembers .block depth members = _
      rw [List.append_assoc, List.cons_append]
    cases bound with
    | zero => omega
    | succ bound =>
      have hlater : ∀ m ∈ next :: members, ReadBack m.2 := fun m hm => h m (List.mem_cons_of_mem member hm)
      have hmembers := ih hlater bound (by
        rw [hrender, List.length_cons, List.length_append, List.length_append] at hbound
        omega) (length_renderMember depth next)
      rw [members?_renderMember (h member List.mem_cons_self) (ended_members _ depth outer _) (by omega)]
      simp only [hrender, List.cons_append, List.append_assoc]
      rw [skipSpace_cons (by decide), after?_ne (by decide), after?_self]
      simp only
      have hnext : ∀ later, skipSpace (renderMember depth next ++ later) = renderMember depth next ++ later := by
        intro later
        rw [renderMember_eq]
        exact skipSpace_cons (by decide) _
      rw [skipSpace_lineBreak, hnext, hmembers, Option.map_some]

theorem array {vs : List Json} (h : ∀ v ∈ vs, ReadBack v) : ReadBack (.array vs) := by
  cases vs with
  | nil =>
    refine ⟨fun depth => ⟨_, _, rfl, by decide, by decide⟩, fun depth bound rest _ hbound => ?_⟩
    cases bound with
    | zero => exact absurd hbound (by simp [renderAt, Text.ofString])
    | succ bound =>
      show Strict.value? (bound + 1) (CodePoint.ofChar '[' :: CodePoint.ofChar ']' :: rest) = _
      rw [Strict.value?, if_neg (by decide), if_neg (by decide), if_pos rfl, skipSpace_cons (by decide),
        after?_self]
  | cons item items =>
    have hrender : ∀ depth, renderAt .block depth (.array (item :: items)) = CodePoint.ofChar '[' ::
        (Style.block.lineBreak (depth + 1) ++ (renderAt .block (depth + 1) item ++
          (renderItems .block (depth + 1) items ++ (Style.block.lineBreak depth ++ [CodePoint.ofChar ']'])))) := by
      intro depth
      have hopen : ("[" : Text) = [CodePoint.ofChar '['] := rfl
      have hclose : ("]" : Text) = [CodePoint.ofChar ']'] := rfl
      rw [renderAt, hopen, hclose]
      simp only [List.cons_append, List.nil_append, List.append_assoc]
    refine ⟨fun depth => ⟨_, _, hrender depth, by decide, by decide⟩, fun depth bound rest _ hbound => ?_⟩
    rw [hrender] at hbound ⊢
    cases bound with
    | zero => exact absurd hbound (by simp)
    | succ bound =>
      have hitems := items?_render h (depth + 1) depth bound rest (by
        simp only [List.length_cons, List.length_append] at hbound
        omega)
      have hfirst := skipSpace_renderAt (h item List.mem_cons_self) (depth + 1)
        (renderItems .block (depth + 1) items ++ (Style.block.lineBreak depth ++ CodePoint.ofChar ']' :: rest))
      simp only [List.cons_append, List.nil_append, List.append_assoc]
      rw [Strict.value?, if_neg (by decide), if_neg (by decide), if_pos rfl, skipSpace_lineBreak, hfirst.1,
        hfirst.2]
      simp only
      rw [hitems, Option.map_some]

theorem object {ms : List (Text × Json)} (hnames : (Entries.keys ms).Nodup) (h : ∀ m ∈ ms, ReadBack m.2) :
    ReadBack (.object ms) := by
  cases ms with
  | nil =>
    refine ⟨fun depth => ⟨_, _, rfl, by decide, by decide⟩, fun depth bound rest _ hbound => ?_⟩
    cases bound with
    | zero => exact absurd hbound (by simp [renderAt, Text.ofString])
    | succ bound =>
      show Strict.value? (bound + 1) (CodePoint.ofChar '\x7b' :: CodePoint.ofChar '\x7d' :: rest) = _
      rw [Strict.value?, if_neg (by decide), if_pos rfl, skipSpace_cons (by decide), after?_self]
  | cons member ms =>
    have hrender : ∀ depth, renderAt .block depth (.object (member :: ms)) = CodePoint.ofChar '\x7b' ::
        (Style.block.lineBreak (depth + 1) ++ (renderMember (depth + 1) member ++
          (renderMembers .block (depth + 1) ms ++
            (Style.block.lineBreak depth ++ [CodePoint.ofChar '\x7d'])))) := by
      intro depth
      have hopen : ("\x7b" : Text) = [CodePoint.ofChar '\x7b'] := rfl
      have hclose : ("\x7d" : Text) = [CodePoint.ofChar '\x7d'] := rfl
      obtain ⟨name, value⟩ := member
      rw [renderAt, hopen, hclose]
      show _ ++ renderMember (depth + 1) (name, value) ++ _ ++ _ ++ _ = _
      simp only [List.cons_append, List.nil_append, List.append_assoc]
    refine ⟨fun depth => ⟨_, _, hrender depth, by decide, by decide⟩, fun depth bound rest _ hbound => ?_⟩
    rw [hrender] at hbound ⊢
    cases bound with
    | zero => exact absurd hbound (by simp)
    | succ bound =>
      have hmembers := members?_render h (depth + 1) depth bound rest (by
        simp only [List.length_cons, List.length_append] at hbound
        omega)
      simp only [List.cons_append, List.nil_append, List.append_assoc]
      rw [Strict.value?, if_neg (by decide), if_pos rfl, skipSpace_lineBreak]
      rw [renderMember_eq] at hmembers ⊢
      simp only [List.cons_append] at hmembers ⊢
      rw [skipSpace_cons (by decide), after?_ne (by decide)]
      simp only
      rw [hmembers, Option.bind_some]
      simp only
      rw [if_pos hnames]

end ReadBack

/-- A document that holds no numbers but integers, and no object with two members of the same name. -/
inductive Plain : Json → Prop
  | null : Plain .null
  | bool (value : Bool) : Plain (.bool value)
  | integer (n : Int) : Plain (.number (.integer n))
  | text (t : Text) : Plain (.text t)
  | array {vs : List Json} (items : ∀ v ∈ vs, Plain v) : Plain (.array vs)
  | object {members : List (Text × Json)} (names : (Entries.keys members).Nodup)
      (values : ∀ m ∈ members, Plain m.2) : Plain (.object members)

theorem Plain.readBack {v : Json} (h : v.Plain) : ReadBack v := by
  induction h with
  | null => exact .null
  | bool value => exact .bool value
  | integer n => exact .integer n
  | text t => exact .text t
  | array _ ih => exact .array ih
  | object names _ ih => exact .object names ih

/-- **A document that is written over several lines reads back as itself**, whatever its texts are. -/
theorem Strict.decode?_render {v : Json} (h : v.Plain) : Strict.decode? (render .block v).line = some v := by
  have hline : (render .block v).line = renderAt .block 0 v ++ [CodePoint.ofChar '\n'] := rfl
  have hskip := (ReadBack.skipSpace_renderAt h.readBack 0 [CodePoint.ofChar '\n']).1
  have hbound : 2 * (renderAt .block 0 v).length ≤
      2 * (renderAt .block 0 v ++ [CodePoint.ofChar '\n']).length + 2 := by
    rw [List.length_append]
    omega
  unfold Strict.decode?
  rw [hline, hskip, h.readBack.read 0 _ _ (.lineBreak []) hbound, Option.bind_some]
  rfl

end Json
end IntentLint

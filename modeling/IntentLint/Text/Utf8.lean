import IntentLint.Text.Basic

/-!
# `Text.Utf8` — texts as octets

The strict decoder goes octet by octet. Between characters it stands at a lead octet; inside one it knows
how many octets are still owed and which range the next one must lie in. It refuses the first octet that no
character can have there, and names as the broken part the octets of the character taken so far.
-/

namespace IntentLint

/-- Octets in order. -/
abbrev Bytes := List UInt8

namespace Utf8

/-! ## Encoding -/

/-- The octets of a code point; a surrogate gets the three octets of its number. -/
def encodePoint (c : CodePoint) : Bytes :=
  if c.val < 0x80 then [c.val.toUInt8]
  else if c.val < 0x800 then [(0xC0 + c.val / 0x40).toUInt8, (0x80 + c.val % 0x40).toUInt8]
  else if c.val < 0x10000 then
    [(0xE0 + c.val / 0x1000).toUInt8, (0x80 + c.val / 0x40 % 0x40).toUInt8,
     (0x80 + c.val % 0x40).toUInt8]
  else
    [(0xF0 + c.val / 0x40000).toUInt8, (0x80 + c.val / 0x1000 % 0x40).toUInt8,
     (0x80 + c.val / 0x40 % 0x40).toUInt8, (0x80 + c.val % 0x40).toUInt8]

/-- The octets of a text. -/
def encode (t : Text) : Bytes := t.flatMap encodePoint

/-! ## Decoding -/

/-- What is wrong with the octets at some place. -/
inductive Reason where
  | invalidStart
  | invalidContinuation
  | truncated
deriving DecidableEq

/-- A broken character: its first octet, where that stands, and how many octets belong to the broken part. -/
structure Fault where
  reason : Reason
  first : UInt8
  position : Nat
  count : Nat
deriving DecidableEq

/-- A character that has begun: the octets taken, those still owed, the range of the next one, and the
payload bits so far. -/
structure Pending where
  first : UInt8
  position : Nat
  taken : Nat
  owed : Nat
  low : Nat
  high : Nat
  bits : Nat

/-- The character that a lead octet above ASCII begins. -/
def Pending.ofLead? (position : Nat) (b : UInt8) : Option Pending :=
  let n := b.toNat
  if 0xC2 ≤ n ∧ n ≤ 0xDF then some ⟨b, position, 1, 1, 0x80, 0xBF, n - 0xC0⟩
  else if n = 0xE0 then some ⟨b, position, 1, 2, 0xA0, 0xBF, 0⟩
  else if n = 0xED then some ⟨b, position, 1, 2, 0x80, 0x9F, 0xD⟩
  else if 0xE1 ≤ n ∧ n ≤ 0xEF then some ⟨b, position, 1, 2, 0x80, 0xBF, n - 0xE0⟩
  else if n = 0xF0 then some ⟨b, position, 1, 3, 0x90, 0xBF, 0⟩
  else if 0xF1 ≤ n ∧ n ≤ 0xF3 then some ⟨b, position, 1, 3, 0x80, 0xBF, n - 0xF0⟩
  else if n = 0xF4 then some ⟨b, position, 1, 3, 0x80, 0x8F, 4⟩
  else none

/-- The character after one more octet of it. -/
def Pending.take (p : Pending) (b : UInt8) : Pending :=
  { p with
    taken := p.taken + 1, owed := p.owed - 1, low := 0x80, high := 0xBF
    bits := p.bits * 0x40 + (b.toNat - 0x80) }

/-- The fault of a character that cannot go on. -/
def Pending.fault (p : Pending) (reason : Reason) : Fault := ⟨reason, p.first, p.position, p.taken⟩

/-- Decodes octets from a position on, with the character that has begun there, if any. -/
def decodeFrom (position : Nat) (pending : Option Pending) : Bytes → Except Fault Text
  | [] =>
    match pending with
    | none => .ok []
    | some p => .error (p.fault .truncated)
  | b :: rest =>
    match pending with
    | none =>
      if b.toNat < 0x80 then
        (decodeFrom (position + 1) none rest).map (CodePoint.ofNat b.toNat :: ·)
      else
        match Pending.ofLead? position b with
        | none => .error ⟨.invalidStart, b, position, 1⟩
        | some p => decodeFrom (position + 1) (some p) rest
    | some p =>
      if p.low ≤ b.toNat ∧ b.toNat ≤ p.high then
        let p' := p.take b
        if p'.owed = 0 then
          (decodeFrom (position + 1) none rest).map (CodePoint.ofNat p'.bits :: ·)
        else decodeFrom (position + 1) (some p') rest
      else .error (p.fault .invalidContinuation)

/-- The text of octets in strict UTF-8. -/
def decode (octets : Bytes) : Except Fault Text := decodeFrom 0 none octets

/-! ## Wording -/

/-- The words for what is wrong. -/
def Reason.words : Reason → Text
  | .invalidStart => "invalid start byte"
  | .invalidContinuation => "invalid continuation byte"
  | .truncated => "unexpected end of data"

/-- The message of a fault: one octet by its value, several by the positions they cover. -/
def Fault.message (f : Fault) : Text :=
  "'utf-8' codec can't decode " ++
    (if f.count = 1 then
      "byte 0x" ++ Text.hex 2 f.first.toNat ++ " in position " ++ Text.ofNat f.position
    else
      "bytes in position " ++ Text.ofNat f.position ++ "-" ++ Text.ofNat (f.position + f.count - 1)) ++
    ": " ++ f.reason.words

end Utf8
end IntentLint

import IntentLint.Text.Basic
import IntentLint.Entries

/-!
# `Json.Basic` — decoded documents

A document is a tree of nulls, Booleans, numbers, texts, arrays and objects. An object keeps the order of
its members. Numbers are kept exactly; a decimal number is its digits and a power of ten.
-/

namespace IntentLint

/-- A number of a document. -/
inductive Number where
  /-- A number written without point and exponent. -/
  | integer (value : Int)
  /-- A number written with a point or an exponent: `±digits · 10^exponent`. -/
  | decimal (negative : Bool) (digits : Nat) (exponent : Int)
  | infinity (negative : Bool)
  | nan
deriving DecidableEq

/-- A decoded document. -/
inductive Json where
  | null
  | bool (value : Bool)
  | number (value : Number)
  | text (value : Text)
  | array (items : List Json)
  | object (members : List (Text × Json))

namespace Json

/-- The member of an object under a name. -/
def member? (name : Text) : Json → Option Json
  | .object members => Entries.get? name members
  | _ => none

end Json

/-! ## Kinds of numbers -/

/-- What double precision makes of a number. -/
inductive NumberKind where
  | integer (value : Int)
  | finite
  | infinite (negative : Bool)
  | nan
deriving DecidableEq

namespace Number

/-- Half way between the largest double and the next power of two: from here on a number is rounded to
infinity. -/
def overflowBound : Nat := Nat.pow 2 1024 - Nat.pow 2 970

/-- `digits · 10^exponent` reaches the overflow bound. Exponents that decide alone are settled first, so that
no power of ten is larger than the digits call for. -/
def overflows (digits : Nat) (exponent : Int) : Bool :=
  let length : Int := (Text.ofNat digits).length
  if digits = 0 ∨ length + exponent ≤ 308 then false
  else if length + exponent > 310 then true
  else if exponent < 0 then decide (overflowBound * Nat.pow 10 exponent.natAbs ≤ digits)
  else decide (overflowBound ≤ digits * Nat.pow 10 exponent.natAbs)

/-- `digits · 10^exponent` is rounded to zero: it is at most half of the least double. Exponents that decide
alone are settled first. -/
def vanishes (digits : Nat) (exponent : Int) : Bool :=
  let length : Int := (Text.ofNat digits).length
  if digits = 0 ∨ length + exponent < -324 then true
  else if length + exponent > -323 then false
  else decide (digits * Nat.pow 2 1075 ≤ Nat.pow 10 exponent.natAbs)

/-- The number is zero in double precision. -/
def isZero : Number → Bool
  | .integer n => n = 0
  | .decimal _ digits exponent => vanishes digits exponent
  | _ => false

/-- The kind of a number. -/
def kind : Number → NumberKind
  | .integer n => .integer n
  | .decimal negative digits exponent =>
    if overflows digits exponent then .infinite negative else .finite
  | .infinity negative => .infinite negative
  | .nan => .nan

end Number
end IntentLint

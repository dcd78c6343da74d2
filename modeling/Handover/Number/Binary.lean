/-!
Numbers of the 64-bit binary format by value, and the rounding of a decimal to the nearest of them.
-/
namespace Handover.Number

inductive Binary
  | finite (negative : Bool) (m : Nat) (e : Int)
  | infinite (negative : Bool)
  | undefined
  deriving DecidableEq, Repr, Inhabited

def roundDiv (num den : Nat) : Nat :=
  let q := num / den
  let r := num % den
  if den < 2 * r || (2 * r = den && q % 2 = 1) then q + 1 else q

def twoTo (e : Int) : Nat := Nat.pow 2 e.toNat

def tenTo (e : Int) : Nat := Nat.pow 10 e.toNat

def scaled (num den : Nat) (e : Int) : Nat × Nat :=
  (num * twoTo (-e), den * twoTo e)

def placeOf (num den : Nat) : Int :=
  let e : Int := (Nat.log2 num : Int) - Nat.log2 den - 52
  let (n, d) := scaled num den e
  max (if n < twoTo 52 * d then e - 1 else e) (-1074)

def Binary.nearest (negative : Bool) (num den : Nat) : Binary :=
  let e := placeOf num den
  let (n, d) := scaled num den e
  let m := roundDiv n d
  let (m, e) := if m = twoTo 53 then (twoTo 52, e + 1) else (m, e)
  if 971 < e then .infinite negative else .finite negative m e

def digitCount (n : Nat) : Nat := (Nat.toDigits 10 n).length

def Binary.ofDecimal (negative : Bool) (digits : Nat) (exponent : Int) : Binary :=
  if digits = 0 then .finite negative 0 0
  else
    let magnitude := exponent + digitCount digits
    if 310 < magnitude then .infinite negative
    else if magnitude < -330 then .finite negative 0 0
    else Binary.nearest negative (digits * tenTo exponent) (tenTo (-exponent))

def Binary.toInt? : Binary → Option Int
  | .finite negative m e =>
    let d := twoTo (-e)
    if m % d = 0 then
      let n : Int := (m / d * twoTo e : Nat)
      some (if negative then -n else n)
    else none
  | _ => none

def Binary.isZero : Binary → Bool
  | .finite _ m _ => m == 0
  | _ => false

def Binary.same (a b : Binary) : Bool := a == b || (a.isZero && b.isZero)

end Handover.Number

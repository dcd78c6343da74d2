import Handover.Number.Binary

/-!
The decimal text of a binary number: the fewest digits that read back as the number, the nearest of
those, and the even one of two equally near. Exponents of the leading digit from -4 to 15 are
written positionally.
-/
namespace Handover.Number

structure Decimal where
  digits : Nat
  exponent : Int
  deriving DecidableEq, Repr

def compareScaled (a : Nat) (i : Int) (n : Nat) (j : Int) : Ordering :=
  compare (a * tenTo i * twoTo (-j)) (n * twoTo j * tenTo (-i))

def readsBack (m : Nat) (e : Int) (d : Decimal) : Bool :=
  let narrow := m == twoTo 52 && -1074 < e
  let low := compareScaled d.digits d.exponent (if narrow then 4 * m - 1 else 4 * m - 2) (e - 2)
  let high := compareScaled d.digits d.exponent (4 * m + 2) (e - 2)
  let closed := m % 2 == 0
  (low == .gt || (closed && low == .eq)) && (high == .lt || (closed && high == .eq))

def leadingPlace (m : Nat) (e : Int) : Nat → Int → Int
  | 0, k => k
  | steps + 1, k => if compareScaled 1 k m e == .gt then k else leadingPlace m e steps (k + 1)

def neighbours (m : Nat) (e place : Int) : List Decimal :=
  let below := m * twoTo e * tenTo (-place) / (twoTo (-e) * tenTo place)
  let down : Decimal := ⟨below, place⟩
  let up : Decimal := ⟨below + 1, place⟩
  match compareScaled (2 * below + 1) place (2 * m) e with
  | .gt => [down, up]
  | .lt => [up, down]
  | .eq => if below % 2 = 0 then [down, up] else [up, down]

def stripZeros : Nat → Decimal → Decimal
  | 0, d => d
  | steps + 1, d =>
    if d.digits % 10 = 0 then stripZeros steps ⟨d.digits / 10, d.exponent + 1⟩ else d

def shortest (m : Nat) (e : Int) : Decimal :=
  let start : Int := ((Nat.log2 m : Int) + e) * 30103 / 100000 - 1
  let k := leadingPlace m e 5 start
  let grids := (List.range 17).map fun n => neighbours m e (k - (n + 1 : Nat))
  match grids.findSome? fun ds => ds.find? (readsBack m e) with
  | some d => stripZeros 17 d
  | none => ⟨m * twoTo e * Nat.pow 5 (-e).toNat, min e 0⟩

def exponentText (n : Int) : String :=
  let digits := toString n.natAbs
  (if n < 0 then "e-" else "e+") ++ (if n.natAbs < 10 then "0" else "") ++ digits

def Decimal.text (d : Decimal) : String :=
  let digits := Nat.toDigits 10 d.digits
  let width : Int := digits.length
  let point := width + d.exponent
  if -4 < point && point ≤ 16 then
    if point ≤ 0 then
      "0." ++ String.ofList (List.replicate (-point).toNat '0' ++ digits)
    else if width ≤ point then
      String.ofList (digits ++ List.replicate (point - width).toNat '0') ++ ".0"
    else
      String.ofList (digits.take point.toNat) ++ "." ++ String.ofList (digits.drop point.toNat)
  else
    String.ofList (digits.take 1) ++ (if 1 < width then "." else "") ++
      String.ofList (digits.drop 1) ++ exponentText (point - 1)

structure SpecialNames where
  infinite : String
  undefined : String

def Binary.text (names : SpecialNames) : Binary → String
  | .finite negative m e =>
    (if negative then "-" else "") ++ (if m = 0 then "0.0" else (shortest m e).text)
  | .infinite negative => (if negative then "-" else "") ++ names.infinite
  | .undefined => names.undefined

end Handover.Number

/-!
Blank characters, the decimal digits of every script (Unicode 14), and integers in decimal. An integer
in a setting may have blanks around it, a sign, and single underscores between its digits.
-/
namespace Handover.Text

def wideBlanks : List (Nat × Nat) :=
  [(0x85, 0x85), (0xA0, 0xA0), (0x1680, 0x1680), (0x2000, 0x200A), (0x2028, 0x2029),
    (0x202F, 0x202F), (0x205F, 0x205F), (0x3000, 0x3000)]

def isWideBlank (c : Char) : Bool :=
  wideBlanks.any fun r => r.1 ≤ c.toNat && c.toNat ≤ r.2

def isPlainBlank (c : Char) : Bool :=
  c == ' ' || (9 ≤ c.toNat && c.toNat ≤ 13)

/-- Any blank character; the four ASCII separators count as blank. -/
def isBlank (c : Char) : Bool :=
  isPlainBlank c || (28 ≤ c.toNat && c.toNat ≤ 31) || isWideBlank c

def trimList {α : Type} (p : α → Bool) (l : List α) : List α :=
  ((l.dropWhile p).reverse.dropWhile p).reverse

def trim (s : String) : String := String.ofList (trimList isBlank s.toList)

def isTrimmed (s : String) : Bool := trim s == s

def digitZeros : List Nat :=
  [0x30, 0x660, 0x6F0, 0x7C0, 0x966, 0x9E6, 0xA66, 0xAE6, 0xB66, 0xBE6, 0xC66, 0xCE6, 0xD66,
    0xDE6, 0xE50, 0xED0, 0xF20, 0x1040, 0x1090, 0x17E0, 0x1810, 0x1946, 0x19D0, 0x1A80, 0x1A90,
    0x1B50, 0x1BB0, 0x1C40, 0x1C50, 0xA620, 0xA8D0, 0xA900, 0xA9D0, 0xA9F0, 0xAA50, 0xABF0, 0xFF10,
    0x104A0, 0x10D30, 0x11066, 0x110F0, 0x11136, 0x111D0, 0x112F0, 0x11450, 0x114D0, 0x11650,
    0x116C0, 0x11730, 0x118E0, 0x11950, 0x11C50, 0x11D50, 0x11DA0, 0x16A60, 0x16AC0, 0x16B50,
    0x1D7CE, 0x1D7D8, 0x1D7E2, 0x1D7EC, 0x1D7F6, 0x1E140, 0x1E2F0, 0x1E950, 0x1FBF0]

def digitValue? (c : Char) : Option Nat :=
  (digitZeros.find? fun z => z ≤ c.toNat && c.toNat < z + 10).map (c.toNat - ·)

/-- Blank characters allowed around an integer; the ASCII separators are not among them. -/
def isIntegerBlank (c : Char) : Bool := isPlainBlank c || isWideBlank c

/-- Integers of more digits are neither read nor written. -/
def maxDigits : Nat := 4300

def isSpellable (n : Int) : Bool := (Nat.toDigits 10 n.natAbs).length ≤ maxDigits

theorem spellableIff {n : Int} : isSpellable n = true ↔ n.natAbs < Nat.pow 10 maxDigits := by
  rw [isSpellable, decide_eq_true_iff, Nat.length_toDigits_le_iff (by decide) (by decide), Nat.pow_eq]

def leastOverlong : Int := .ofNat (Nat.pow 10 maxDigits)

theorem overlongUnspellable : isSpellable leastOverlong = false := by
  rw [← Bool.not_eq_true, spellableIff, leastOverlong, Int.natAbs_ofNat']
  exact Nat.lt_irrefl _

def digitRun (digit : Bool) : List Char → Option (List Nat)
  | [] => if digit then none else some []
  | c :: rest =>
    match digitValue? c with
    | some d => (digitRun false rest).map (d :: ·)
    | none => if c = '_' && !digit then digitRun true rest else none

def ofDigits (ds : List Nat) : Nat := ds.foldl (fun n d => 10 * n + d) 0

def natural? (cs : List Char) : Option Nat :=
  match digitRun true cs with
  | some ds => if ds.length ≤ maxDigits then some (ofDigits ds) else none
  | none => none

def signed? : List Char → Option Int
  | '-' :: cs => (natural? cs).map fun n => -(n : Int)
  | '+' :: cs => (natural? cs).map Int.ofNat
  | cs => (natural? cs).map Int.ofNat

def integer? (s : String) : Option Int := signed? (trimList isIntegerBlank s.toList)

end Handover.Text

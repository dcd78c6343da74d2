import Handover.Json.Basic

/-!
Reading a value from JSON text. Beyond the standard grammar the three names of special numbers are
read; a repeated member keeps its first place and its last value. Nesting and the digits of a number
before its point are bounded.
-/
namespace Handover.Json

structure Limits where
  depth : Nat
  digits : Nat

def Limits.standard : Limits := ⟨200, 4300⟩

def isGap (c : Char) : Bool := c == ' ' || c == '\t' || c == '\n' || c == '\r'

def skipGap (cs : List Char) : List Char := cs.dropWhile isGap

def hexValue? (c : Char) : Option Nat :=
  if '0' ≤ c && c ≤ '9' then some (c.toNat - 48)
  else if 'a' ≤ c && c ≤ 'f' then some (c.toNat - 87)
  else if 'A' ≤ c && c ≤ 'F' then some (c.toNat - 55)
  else none

def unit? (a b c d : Char) : Option Nat := do
  some (((← hexValue? a) * 16 + (← hexValue? b)) * 256 + (← hexValue? c) * 16 + (← hexValue? d))

def shortEscape? : Char → Option Char
  | '"' => some '"'
  | '\\' => some '\\'
  | '/' => some '/'
  | 'b' => some (Char.ofNat 8)
  | 'f' => some (Char.ofNat 12)
  | 'n' => some '\n'
  | 'r' => some '\r'
  | 't' => some '\t'
  | _ => none

def isHigh (u : Nat) : Bool := 0xD800 ≤ u && u < 0xDC00

def isLow (u : Nat) : Bool := 0xDC00 ≤ u && u < 0xE000

/-- A text after its opening quote, and what follows the closing one. Two escaped halves make one
character; a half on its own and a bare control character are refused. -/
def textBody : List Char → Option (List Char × List Char)
  | [] => none
  | '"' :: rest => some ([], rest)
  | '\\' :: 'u' :: a :: b :: c :: d :: '\\' :: 'u' :: e :: f :: g :: h :: rest =>
    match unit? a b c d with
    | none => none
    | some u =>
      if isHigh u then
        match unit? e f g h with
        | none => none
        | some l =>
          if isLow l then
            (textBody rest).map fun r =>
              (Char.ofNat (0x10000 + (u - 0xD800) * 0x400 + (l - 0xDC00)) :: r.1, r.2)
          else none
      else if isLow u then none
      else
        (textBody ('\\' :: 'u' :: e :: f :: g :: h :: rest)).map fun r => (Char.ofNat u :: r.1, r.2)
  | '\\' :: 'u' :: a :: b :: c :: d :: rest =>
    match unit? a b c d with
    | none => none
    | some u =>
      if isHigh u || isLow u then none
      else (textBody rest).map fun r => (Char.ofNat u :: r.1, r.2)
  | '\\' :: c :: rest =>
    match shortEscape? c with
    | none => none
    | some x => (textBody rest).map fun r => (x :: r.1, r.2)
  | c :: rest =>
    if c.toNat < 0x20 || c = '\\' then none else (textBody rest).map fun r => (c :: r.1, r.2)

def digitsOf (cs : List Char) : List Char × List Char := cs.span Char.isDigit

def digitsValue (ds : List Char) : Nat := ds.foldl (fun n d => 10 * n + (d.toNat - 48)) 0

def fraction? : List Char → Option (List Char × List Char)
  | '.' :: cs =>
    match digitsOf cs with
    | ([], _) => none
    | (ds, rest) => some (ds, rest)
  | cs => some ([], cs)

def exponentDigits? (negative : Bool) (cs : List Char) : Option (Int × List Char) :=
  match digitsOf cs with
  | ([], _) => none
  | (ds, rest) => some (if negative then -(digitsValue ds : Int) else digitsValue ds, rest)

def exponent? : List Char → Option (Option Int × List Char)
  | 'e' :: cs | 'E' :: cs =>
    let signed := match cs with
      | '-' :: cs => exponentDigits? true cs
      | '+' :: cs => exponentDigits? false cs
      | cs => exponentDigits? false cs
    signed.map fun r => (some r.1, r.2)
  | cs => some (none, cs)

def wholeDigits? (lim : Limits) : List Char → Option (List Char × List Char)
  | '0' :: cs => some (['0'], cs)
  | cs =>
    match digitsOf cs with
    | ([], _) => none
    | (ds, rest) => if lim.digits < ds.length then none else some (ds, rest)

def magnitude? (lim : Limits) (negative : Bool) (cs : List Char) : Option (Json × List Char) := do
  let (whole, cs) ← wholeDigits? lim cs
  let (frac, cs) ← fraction? cs
  let (exp, cs) ← exponent? cs
  match frac, exp with
  | [], none => some (.int (if negative then -(digitsValue whole : Int) else digitsValue whole), cs)
  | _, _ =>
    some (.real (.ofDecimal negative (digitsValue (whole ++ frac)) (exp.getD 0 - frac.length)), cs)

def number? (lim : Limits) : List Char → Option (Json × List Char)
  | 'N' :: 'a' :: 'N' :: rest => some (.real .undefined, rest)
  | 'I' :: 'n' :: 'f' :: 'i' :: 'n' :: 'i' :: 't' :: 'y' :: rest =>
    some (.real (.infinite false), rest)
  | '-' :: 'I' :: 'n' :: 'f' :: 'i' :: 'n' :: 'i' :: 't' :: 'y' :: rest =>
    some (.real (.infinite true), rest)
  | '-' :: cs => magnitude? lim true cs
  | cs => magnitude? lim false cs

mutual

/-- A value in front of a text, nested at most `depth` deep, found within `fuel` calls. -/
def value? (lim : Limits) : (fuel depth : Nat) → List Char → Option (Json × List Char)
  | 0, _, _ => none
  | fuel + 1, depth, cs =>
    match skipGap cs with
    | 'n' :: 'u' :: 'l' :: 'l' :: rest => some (.null, rest)
    | 't' :: 'r' :: 'u' :: 'e' :: rest => some (.bool true, rest)
    | 'f' :: 'a' :: 'l' :: 's' :: 'e' :: rest => some (.bool false, rest)
    | '"' :: rest => (textBody rest).map fun r => (.string (String.ofList r.1), r.2)
    | '[' :: rest =>
      match depth with
      | 0 => none
      | depth + 1 =>
        match skipGap rest with
        | ']' :: rest => some (.array [], rest)
        | rest => (items? lim fuel depth rest).map fun r => (.array r.1, r.2)
    | '{' :: rest =>
      match depth with
      | 0 => none
      | depth + 1 =>
        match skipGap rest with
        | '}' :: rest => some (.object [], rest)
        | rest => (members? lim fuel depth rest).map fun r => (.object (Table.putAll r.1 []), r.2)
    | rest => number? lim rest

def items? (lim : Limits) : (fuel depth : Nat) → List Char → Option (List Json × List Char)
  | 0, _, _ => none
  | fuel + 1, depth, cs =>
    match value? lim fuel depth cs with
    | none => none
    | some (x, rest) =>
      match skipGap rest with
      | ']' :: rest => some ([x], rest)
      | ',' :: rest => (items? lim fuel depth rest).map fun r => (x :: r.1, r.2)
      | _ => none

def members? (lim : Limits) :
    (fuel depth : Nat) → List Char → Option (List (String × Json) × List Char)
  | 0, _, _ => none
  | fuel + 1, depth, cs =>
    match skipGap cs with
    | '"' :: cs =>
      match textBody cs with
      | none => none
      | some (k, rest) =>
        match skipGap rest with
        | ':' :: rest =>
          match value? lim fuel depth rest with
          | none => none
          | some (x, rest) =>
            match skipGap rest with
            | '}' :: rest => some ([(String.ofList k, x)], rest)
            | ',' :: rest =>
              (members? lim fuel depth rest).map fun r => ((String.ofList k, x) :: r.1, r.2)
            | _ => none
        | _ => none
    | _ => none

end

def readChars? (lim : Limits) (cs : List Char) : Option Json :=
  match value? lim (2 * cs.length + 2) lim.depth cs with
  | some (j, rest) => if (skipGap rest).isEmpty then some j else none
  | none => none

def read? (lim : Limits) (s : String) : Option Json := readChars? lim s.toList

def readBytes? (lim : Limits) (b : ByteArray) : Option Json :=
  (String.fromUTF8? b).bind (read? lim)

end Handover.Json

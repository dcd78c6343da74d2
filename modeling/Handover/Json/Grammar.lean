import Handover.Json.Reader

/-!
The texts of values, as a grammar: which characters spell which value. Beyond the standard grammar the names
of the special numbers are values. Nesting and the digits of a number before its point are bounded.
-/
namespace Handover.Json

def Gap (cs : List Char) : Prop := ∀ c ∈ cs, isGap c = true

def Hex (c : Char) (n : Nat) : Prop :=
  "0123456789abcdef".toList[n]? = some c ∨ "0123456789ABCDEF".toList[n]? = some c

inductive CodeUnit : List Char → Nat → Prop
  | mk {a b c d : Char} {w x y z : Nat} (first : Hex a w) (second : Hex b x) (third : Hex c y)
    (fourth : Hex d z) : CodeUnit [a, b, c, d] (((w * 16 + x) * 16 + y) * 16 + z)

def shortEscapes : List (Char × Char) :=
  [('"', '"'), ('\\', '\\'), ('/', '/'), ('b', Char.ofNat 8), ('f', Char.ofNat 12), ('n', '\n'),
    ('r', '\r'), ('t', '\t')]

inductive Piece : List Char → Char → Prop
  | plain {c : Char} (visible : 0x20 ≤ c.toNat) (quote : c ≠ '"') (slash : c ≠ '\\') : Piece [c] c
  | short {c x : Char} (named : (c, x) ∈ shortEscapes) : Piece ['\\', c] x
  | unit {ds : List Char} {u : Nat} (digits : CodeUnit ds u) (whole : u < 0xD800 ∨ 0xE000 ≤ u) :
    Piece ('\\' :: 'u' :: ds) (Char.ofNat u)
  | pair {ds es : List Char} {u l : Nat} (digits : CodeUnit ds u) (digits' : CodeUnit es l)
    (high : 0xD800 ≤ u ∧ u < 0xDC00) (low : 0xDC00 ≤ l ∧ l < 0xE000) :
    Piece ('\\' :: 'u' :: (ds ++ '\\' :: 'u' :: es))
      (Char.ofNat (0x10000 + (u - 0xD800) * 0x400 + (l - 0xDC00)))

inductive Quotes : List Char → List Char → Prop
  | nil : Quotes [] []
  | cons {piece cs xs : List Char} {x : Char} (first : Piece piece x) (rest : Quotes cs xs) :
    Quotes (piece ++ cs) (x :: xs)

structure Digits (ds : List Char) : Prop where
  some : ds ≠ []
  all : ∀ d ∈ ds, d.isDigit = true

inductive Whole (lim : Limits) : List Char → Prop
  | zero : Whole lim ['0']
  | digits {ds : List Char} (digits : Digits ds) (first : ds.head? ≠ some '0')
    (bounded : ds.length ≤ lim.digits) : Whole lim ds

inductive Fraction : List Char → List Char → Prop
  | none : Fraction [] []
  | some {ds : List Char} (digits : Digits ds) : Fraction ('.' :: ds) ds

inductive Exponent : List Char → Option Int → Prop
  | none : Exponent [] none
  | bare {e : Char} {ds : List Char} (mark : e = 'e' ∨ e = 'E') (digits : Digits ds) :
    Exponent (e :: ds) (some (digitsValue ds))
  | plus {e : Char} {ds : List Char} (mark : e = 'e' ∨ e = 'E') (digits : Digits ds) :
    Exponent (e :: '+' :: ds) (some (digitsValue ds))
  | minus {e : Char} {ds : List Char} (mark : e = 'e' ∨ e = 'E') (digits : Digits ds) :
    Exponent (e :: '-' :: ds) (some (-digitsValue ds))

def numberOf (negative : Bool) (whole frac : List Char) : Option Int → Json
  | none =>
    if frac = [] then .int (if negative then -(digitsValue whole : Int) else digitsValue whole)
    else .real (.ofDecimal negative (digitsValue (whole ++ frac)) (-frac.length))
  | some e => .real (.ofDecimal negative (digitsValue (whole ++ frac)) (e - frac.length))

inductive Magnitude (lim : Limits) (negative : Bool) : List Char → Json → Prop
  | mk {whole fs frac es : List Char} {exp : Option Int} (digits : Whole lim whole)
    (fraction : Fraction fs frac) (exponent : Exponent es exp) :
    Magnitude lim negative (whole ++ (fs ++ es)) (numberOf negative whole frac exp)

inductive NumberText (lim : Limits) : List Char → Json → Prop
  | positive {cs : List Char} {j : Json} (size : Magnitude lim false cs j) : NumberText lim cs j
  | negative {cs : List Char} {j : Json} (size : Magnitude lim true cs j) : NumberText lim ('-' :: cs) j
  | undefined : NumberText lim "NaN".toList (.real .undefined)
  | infinite : NumberText lim "Infinity".toList (.real (.infinite false))
  | infiniteBelow : NumberText lim "-Infinity".toList (.real (.infinite true))

mutual

/-- A value without gaps around it, nested at most so deep. Of members of one name the last counts. -/
inductive ValueText (lim : Limits) : Nat → List Char → Json → Prop
  | null {depth : Nat} : ValueText lim depth "null".toList .null
  | yes {depth : Nat} : ValueText lim depth "true".toList (.bool true)
  | no {depth : Nat} : ValueText lim depth "false".toList (.bool false)
  | number {depth : Nat} {cs : List Char} {j : Json} (number : NumberText lim cs j) :
    ValueText lim depth cs j
  | string {depth : Nat} {cs xs : List Char} (quotes : Quotes cs xs) :
    ValueText lim depth ('"' :: (cs ++ ['"'])) (.string (String.ofList xs))
  | emptyArray {depth : Nat} {gap : List Char} (blank : Gap gap) :
    ValueText lim (depth + 1) ('[' :: (gap ++ [']'])) (.array [])
  | array {depth : Nat} {cs : List Char} {items : List Json} (inside : ItemsText lim depth cs items) :
    ValueText lim (depth + 1) ('[' :: (cs ++ [']'])) (.array items)
  | emptyObject {depth : Nat} {gap : List Char} (blank : Gap gap) :
    ValueText lim (depth + 1) ('\x7b' :: (gap ++ ['\x7d'])) (.object [])
  | object {depth : Nat} {cs : List Char} {members : List (String × Json)}
    (inside : MembersText lim depth cs members) :
    ValueText lim (depth + 1) ('\x7b' :: (cs ++ ['\x7d'])) (.object (Table.putAll members []))

inductive ElementText (lim : Limits) : Nat → List Char → Json → Prop
  | mk {depth : Nat} {before cs after : List Char} {j : Json} (lead : Gap before)
    (value : ValueText lim depth cs j) (trail : Gap after) :
    ElementText lim depth (before ++ (cs ++ after)) j

inductive ItemsText (lim : Limits) : Nat → List Char → List Json → Prop
  | last {depth : Nat} {cs : List Char} {j : Json} (item : ElementText lim depth cs j) :
    ItemsText lim depth cs [j]
  | more {depth : Nat} {cs rest : List Char} {j : Json} {items : List Json}
    (item : ElementText lim depth cs j) (others : ItemsText lim depth rest items) :
    ItemsText lim depth (cs ++ ',' :: rest) (j :: items)

inductive MemberText (lim : Limits) : Nat → List Char → String × Json → Prop
  | mk {depth : Nat} {before name xs between cs : List Char} {j : Json} (lead : Gap before)
    (quotes : Quotes name xs) (gap : Gap between) (value : ElementText lim depth cs j) :
    MemberText lim depth (before ++ '"' :: (name ++ '"' :: (between ++ ':' :: cs)))
      (String.ofList xs, j)

inductive MembersText (lim : Limits) : Nat → List Char → List (String × Json) → Prop
  | last {depth : Nat} {cs : List Char} {m : String × Json} (member : MemberText lim depth cs m) :
    MembersText lim depth cs [m]
  | more {depth : Nat} {cs rest : List Char} {m : String × Json} {members : List (String × Json)}
    (member : MemberText lim depth cs m) (others : MembersText lim depth rest members) :
    MembersText lim depth (cs ++ ',' :: rest) (m :: members)

end

inductive ObjectText (lim : Limits) : List Char → List (String × Json) → Prop
  | empty {before gap after : List Char} (level : 0 < lim.depth) (lead : Gap before) (blank : Gap gap)
    (trail : Gap after) : ObjectText lim (before ++ '\x7b' :: (gap ++ '\x7d' :: after)) []
  | full {depth : Nat} {before cs after : List Char} {members : List (String × Json)}
    (level : lim.depth = depth + 1) (lead : Gap before) (inside : MembersText lim depth cs members)
    (trail : Gap after) : ObjectText lim (before ++ '\x7b' :: (cs ++ '\x7d' :: after)) members

end Handover.Json

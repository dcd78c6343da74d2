import Handover.Json.Basic
import Handover.Number.Shortest
import Handover.Text.Integer
import Handover.Text.Quoted

/-!
Written forms of a value. A style fixes the names of the constants, the separators and the way
texts are quoted; three styles are in use: compact JSON that keeps every character, spaced JSON in
ASCII, and the display form of messages and consoles. No style can write an integer of too many digits,
so whoever writes a value that may hold one asks first.
-/
namespace Handover.Json

structure Style where
  null : String
  yes : String
  no : String
  special : Number.SpecialNames
  betweenItems : String
  afterKey : String
  quote : List Char → List Char

def intChars (n : Int) : List Char :=
  if n < 0 then '-' :: Nat.toDigits 10 n.natAbs else Nat.toDigits 10 n.natAbs

mutual

def chars (st : Style) : Json → List Char
  | .null => st.null.toList
  | .bool true => st.yes.toList
  | .bool false => st.no.toList
  | .int n => intChars n
  | .real x => (x.text st.special).toList
  | .string s => st.quote s.toList
  | .array items => '[' :: itemChars st true items ++ [']']
  | .object members => '{' :: memberChars st true members ++ ['}']

def itemChars (st : Style) (first : Bool) : List Json → List Char
  | [] => []
  | x :: rest =>
    (if first then [] else st.betweenItems.toList) ++ chars st x ++ itemChars st false rest

def memberChars (st : Style) (first : Bool) : List (String × Json) → List Char
  | [] => []
  | (k, x) :: rest =>
    (if first then [] else st.betweenItems.toList) ++ st.quote k.toList ++ st.afterKey.toList ++
      chars st x ++ memberChars st false rest

end

def unitEscape (n : Nat) : List Char := '\\' :: 'u' :: Text.hexDigits 4 n

def escapeChar (ascii : Bool) (c : Char) : List Char :=
  let n := c.toNat
  if c = '"' || c = '\\' then ['\\', c]
  else if c = '\n' then ['\\', 'n']
  else if c = '\r' then ['\\', 'r']
  else if c = '\t' then ['\\', 't']
  else if n = 8 then ['\\', 'b']
  else if n = 12 then ['\\', 'f']
  else if n < 0x20 then unitEscape n
  else if !ascii || n < 0x7F then [c]
  else if n < 0x10000 then unitEscape n
  else unitEscape (0xD800 + (n - 0x10000) / 0x400) ++ unitEscape (0xDC00 + (n - 0x10000) % 0x400)

def quoteChars (ascii : Bool) (cs : List Char) : List Char :=
  '"' :: cs.flatMap (escapeChar ascii) ++ ['"']

def compact : Style where
  null := "null"
  yes := "true"
  no := "false"
  special := ⟨"Infinity", "NaN"⟩
  betweenItems := ","
  afterKey := ":"
  quote := quoteChars false

def spaced : Style where
  null := "null"
  yes := "true"
  no := "false"
  special := ⟨"Infinity", "NaN"⟩
  betweenItems := ", "
  afterKey := ": "
  quote := quoteChars true

def display : Style where
  null := "None"
  yes := "True"
  no := "False"
  special := ⟨"inf", "nan"⟩
  betweenItems := ", "
  afterKey := ": "
  quote := Text.quoteList

mutual

def isWritable : Json → Bool
  | .int n => Text.isSpellable n
  | .array items => itemsWritable items
  | .object members => membersWritable members
  | _ => true

def itemsWritable : List Json → Bool
  | [] => true
  | x :: rest => isWritable x && itemsWritable rest

def membersWritable : List (String × Json) → Bool
  | [] => true
  | (_, x) :: rest => isWritable x && membersWritable rest

end

def write (st : Style) (j : Json) : String := String.ofList (chars st j)

mutual

def sortMembers : Json → Json
  | .array items => .array (sortItems items)
  | .object members => .object (Table.sorted (sortEach members))
  | j => j

def sortItems : List Json → List Json
  | [] => []
  | x :: rest => sortMembers x :: sortItems rest

def sortEach : List (String × Json) → List (String × Json)
  | [] => []
  | (k, x) :: rest => (k, sortMembers x) :: sortEach rest

end

end Handover.Json

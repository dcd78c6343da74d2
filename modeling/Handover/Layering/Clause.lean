import Handover.Layering.Import
import Handover.Text.Likeness
import Handover.Text.Name

/-!
Import statements as source text. A line is cut into words and marks, and what it imports is read from
them; a line that holds anything but imports and `pass` is not read. A word may be written with
letters that stand for ASCII ones, but a reserved word is one only as it is written.
-/
namespace Handover.Layering

namespace Import

def clause : Import → String
  | modules names => "import " ++ ", ".intercalate names
  | members source dots names =>
    "from " ++ String.ofList (List.replicate dots.toNat '.') ++ source ++ " import " ++
      ", ".intercalate names

end Import

inductive Token
  | word (s : String)
  | reserved (s : String)
  | mark (c : Char)
  deriving DecidableEq, Repr

def reservedWords : List String :=
  ["False", "None", "True", "and", "as", "assert", "async", "await", "break", "class", "continue",
    "def", "del", "elif", "else", "except", "finally", "for", "from", "global", "if", "import", "in",
    "is", "lambda", "nonlocal", "not", "or", "pass", "raise", "return", "try", "while", "with",
    "yield"]

def marks : List Char := ['.', ',', '*', '(', ')', ';']

def isWordPart (c : Char) : Bool := c.isAlphanum || c == '_' || 128 ≤ c.toNat

namespace Token

def ofWord? (w : List Char) : Option Token :=
  if reservedWords.contains (String.ofList w) then some (reserved (String.ofList w))
  else if Text.isName w then some (word (String.ofList (w.flatMap Text.likeOf)))
  else none

def scan? (w : List Char) : List Char → Option (List Token)
  | [] => flush w (some [])
  | c :: rest =>
    if isWordPart c then scan? (w ++ [c]) rest
    else if c == ' ' || c == '\t' || c == '\x0c' then flush w (scan? [] rest)
    else if c == '#' then flush w (some [])
    else if marks.contains c then flush w ((scan? [] rest).map (mark c :: ·))
    else none
where
  flush (w : List Char) (rest : Option (List Token)) : Option (List Token) :=
    if w.isEmpty then rest
    else
      match ofWord? w, rest with
      | some t, some ts => some (t :: ts)
      | _, _ => none

def ofLine? (line : String) : Option (List Token) := scan? [] line.toList

end Token

namespace Clause

open Token

def word? : List Token → Option String
  | [word s] => some s
  | _ => none

def all? {α : Type} (read : List Token → Option α) : List (List Token) → Option (List α)
  | [] => some []
  | piece :: rest =>
    match read piece, all? read rest with
    | some a, some as => some (a :: as)
    | _, _ => none

def renamed? (read : List Token → Option String) (piece : List Token) : Option String :=
  match piece.splitOn (reserved "as") with
  | [original] => read original
  | [original, [word _]] => read original
  | _ => none

def dotted? (piece : List Token) : Option String :=
  (all? word? (piece.splitOn (mark '.'))).map dotted

def names? (ts : List Token) : Option (List String) :=
  all? (renamed? word?) (ts.splitOn (mark ','))

def enclosed? (ts : List Token) : Option (List String) :=
  if ts.getLast? == some (mark ',') then names? ts.dropLast else names? ts

def members? : List Token → Option (List String)
  | [mark '*'] => some ["*"]
  | mark '(' :: rest =>
    if rest.getLast? == some (mark ')') then enclosed? rest.dropLast else none
  | ts => names? ts

def source? (dots : Nat) : List Token → Option String
  | [] => if dots = 0 then none else some ""
  | ts => dotted? ts

def isDot (t : Token) : Bool := t == mark '.'

def from? (ts : List Token) : Option Import :=
  let dots := (ts.takeWhile isDot).length
  match (ts.dropWhile isDot).splitOn (reserved "import") with
  | [source, names] =>
    match source? dots source, members? names with
    | some source, some names => some (.members source dots names)
    | _, _ => none
  | _ => none

def simple? : List Token → Option (List Import)
  | [reserved "pass"] => some []
  | reserved "import" :: ts =>
    (all? (renamed? dotted?) (ts.splitOn (mark ','))).map fun names => [.modules names]
  | reserved "from" :: ts => (from? ts).map ([·])
  | _ => none

def line? (ts : List Token) : Option (List Import) :=
  let ts := if ts.getLast? == some (mark ';') then ts.dropLast else ts
  (all? simple? (ts.splitOn (mark ';'))).map List.flatten

end Clause

def Import.ofLine? (line : String) : Option (List Import) :=
  (Token.ofLine? line).bind Clause.line?

end Handover.Layering

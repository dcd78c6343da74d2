import Handover.Json.Basic

/-!
Issues found while a form is read. Reading goes on after an issue, so a form answers with all of
them: those of its own fields in the order of the form, then unknown members in the order of the
input.
-/
namespace Handover.Wire

inductive IssueKind
  | missing
  | unknown
  | notText
  | notFlag
  | unreadableFlag
  | notObject (form : Option String)
  | notOne (variants : List String) (set : Nat)
  | notJson
  deriving DecidableEq, Repr

def IssueKind.name : IssueKind → String
  | .missing => "missing"
  | .unknown => "extra_forbidden"
  | .notText => "string_type"
  | .notFlag => "bool_type"
  | .unreadableFlag => "bool_parsing"
  | .notObject _ => "model_type"
  | .notOne .. => "value_error"
  | .notJson => "json_invalid"

def IssueKind.message? : IssueKind → Option String
  | .missing => some "Field required"
  | .unknown => some "Extra inputs are not permitted"
  | .notText => some "Input should be a valid string"
  | .notFlag => some "Input should be a valid boolean"
  | .unreadableFlag => some "Input should be a valid boolean, unable to interpret input"
  | .notObject none => some "Input should be an object"
  | .notObject (some form) =>
    some ("Input should be a valid dictionary or instance of " ++ form)
  | .notOne variants set =>
    some ("Value error, exactly one of " ++ ", ".intercalate variants ++ " must be set, got " ++
      toString set)
  | .notJson => none

structure Issue where
  path : List String
  kind : IssueKind
  deriving DecidableEq, Repr

inductive Origin
  | text
  | value
  deriving DecidableEq, Repr

def Origin.notObject (o : Origin) (form : String) : IssueKind :=
  .notObject (match o with | .text => none | .value => some form)

abbrev Checked (α : Type) := Except (List Issue) α

namespace Checked

variable {α β : Type}

def issues : Checked α → List Issue
  | .ok _ => []
  | .error rows => rows

def ap (f : Checked (α → β)) (a : Checked α) : Checked β :=
  match f, a with
  | .ok f, .ok a => .ok (f a)
  | f, a => .error (issues f ++ issues a)

def plus (a : Checked α) (rows : List Issue) : Checked α :=
  match a, rows with
  | .ok a, [] => .ok a
  | a, rows => .error (issues a ++ rows)

def under (name : String) : Checked α → Checked α
  | .ok a => .ok a
  | .error rows => .error (rows.map fun r => { r with path := name :: r.path })

def fail (kind : IssueKind) : Checked α := .error [⟨[], kind⟩]

theorem plusOk {a : Checked α} {rows : List Issue} {x : α} :
    plus a rows = .ok x ↔ a = .ok x ∧ rows = [] := by
  cases a <;> cases rows <;> simp [plus]

theorem plusError {a : Checked α} {rows all : List Issue} (failed : plus a rows = .error all) :
    all = issues a ++ rows := by
  cases a with
  | error own => cases failed; rfl
  | ok x => cases rows <;> cases failed; rfl

theorem apOk {f : Checked (α → β)} {a : Checked α} {y : β} :
    ap f a = .ok y ↔ ∃ g x, f = .ok g ∧ a = .ok x ∧ g x = y := by
  cases f <;> cases a <;> simp [ap]

theorem apError {f : Checked (α → β)} {a : Checked α} {all : List Issue}
    (failed : ap f a = .error all) : all = issues f ++ issues a := by
  cases f <;> cases a <;> cases failed <;> rfl

theorem underOk {name : String} {a : Checked α} {x : α} : under name a = .ok x ↔ a = .ok x := by
  cases a <;> simp [under]

theorem mapOk {a : Checked α} {f : α → β} {y : β} :
    Except.map f a = .ok y ↔ ∃ x, a = .ok x ∧ f x = y := by
  cases a <;> simp [Except.map]

end Checked

def unknownMembers (known : List String) (ms : List (String × Json)) : List Issue :=
  (ms.filter fun m => !known.contains m.1).map fun m => ⟨[m.1], .unknown⟩

def readText : Json → Checked String
  | .string s => .ok s
  | _ => .fail .notText

def readText? : Json → Checked (Option String)
  | .null => .ok none
  | j => (readText j).map some

def yesWords : List String := ["1", "t", "true", "y", "yes", "on"]

def noWords : List String := ["0", "f", "false", "n", "no", "off"]

def readFlagWord (s : String) : Checked Bool :=
  let word := String.ofList (s.toList.map Char.toLower)
  if yesWords.contains word then .ok true
  else if noWords.contains word then .ok false
  else .fail .unreadableFlag

def boundInt64 : Int := Int.pow 2 63

def leastInt64 : Int := -boundInt64

/-- A flag written as a number: zero or one; other integers from `least` up to the largest of 64 bits
are numbers of no meaning. -/
def readFlagNumber (least : Int) (n : Option Int) : Checked Bool :=
  match n with
  | some 0 => .ok false
  | some 1 => .ok true
  | some n => .fail (if least ≤ n ∧ n < boundInt64 then .unreadableFlag else .notFlag)
  | none => .fail .notFlag

/-- An integer may be the least of 64 bits; a real number counts only above it. -/
def readFlag : Json → Checked Bool
  | .bool b => .ok b
  | .string s => readFlagWord s
  | .int n => readFlagNumber leastInt64 (some n)
  | .real x => readFlagNumber (leastInt64 + 1) x.toInt?
  | _ => .fail .notFlag

def member {α : Type} (name : String) (default : α) (read : Json → Checked α)
    (ms : List (String × Json)) : Checked α :=
  match Table.get? name ms with
  | none => .ok default
  | some j => Checked.under name (read j)

end Handover.Wire

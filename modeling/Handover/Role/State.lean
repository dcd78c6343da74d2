import Handover.Role.Record

/-!
The states of a role and their flat records. A state does not say that its fields are filled; the
record does, so flattening can fail.
-/
namespace Handover

inductive State
  | vacant
  | owned (admin : Option Party)
  | offered (admin proposed : Option Party)
  | abolished
  deriving DecidableEq, Repr

namespace State

def admin : State → Option Party
  | .owned admin => admin
  | .offered admin _ => admin
  | _ => none

def proposed : State → Option Party
  | .offered _ proposed => proposed
  | _ => none

def isAbolished : State → Bool
  | .abolished => true
  | _ => false

def ofRecord : Option Record → State
  | none => .vacant
  | some r =>
    if r.abolished.isSet then .abolished
    else if r.admin = none then .vacant
    else if r.proposed = none then .owned r.admin
    else .offered r.admin r.proposed

def toRecord (s : State) : Except Flaw Record :=
  Record.make (.bool s.isAbolished) s.admin s.proposed

end State

structure View where
  admin : Option String
  proposed : Option String
  deriving DecidableEq, Repr

def State.view (s : State) : View := ⟨s.admin.map Party.name, s.proposed.map Party.name⟩

end Handover

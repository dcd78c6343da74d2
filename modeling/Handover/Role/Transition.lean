import Handover.Role.State
import Handover.Role.Request
import Handover.Validator

/-!
Transitions of the role: a guard, then the validation that it asks for. A guard looks at the state, the
caller and the kind of request, and answers with the next state or with an identity that has to be
validated first.
-/
namespace Handover

inductive Plan
  | settle (next : State)
  | validate (raw : Json) (next : Identity → State)

def Plan.payload? : Plan → Option Json
  | .settle _ => none
  | .validate raw _ => some raw

namespace State

def requireAdmin (s : State) (caller : Option Party) : Except Fault (Option Party) :=
  if s.admin = none ∨ s.admin ≠ caller then .error .notAdmin else .ok s.admin

/-- Start a role: anyone may, once. Every request but the first kind gives the role up. -/
def planStart (s : State) (r : Request) : Except Fault Plan :=
  if s = .abolished then .error .abolished
  else if s.admin ≠ none then .error .alreadySet
  else
    match r with
    | .setInitialAdmin raw => .ok (.validate raw fun i => .owned (some (.identity i)))
    | _ => .ok (.settle .abolished)

def planChange (s : State) (caller : Option Party) (r : Request) : Except Fault Plan :=
  if s = .abolished then .error .abolished
  else
    match r with
    | .proposeNewAdmin raw =>
      (s.requireAdmin caller).map fun admin =>
        .validate raw fun i => .offered admin (some (.identity i))
    | .clearProposed => (s.requireAdmin caller).map fun admin => .settle (.owned admin)
    | .acceptProposed =>
      if s.proposed = none ∨ s.proposed ≠ caller then .error .notProposed
      else .ok (.settle (.owned caller))
    | .abolishAdminRole => (s.requireAdmin caller).map fun _ => .settle .abolished
    | r => .error (.unsupported "update" r.kind)

end State

def Plan.carryOut (v : Validator) : Plan → Except Failure State × Validator
  | .settle next => (.ok next, v)
  | .validate raw next => ((v.validate raw).1.map next, (v.validate raw).2)

def carryOut (v : Validator) : Except Fault Plan → Except Failure State × Validator
  | .error f => (.error (.fault f), v)
  | .ok p => p.carryOut v

namespace State

def start (v : Validator) (s : State) (r : Request) : Except Failure State × Validator :=
  carryOut v (s.planStart r)

def change (v : Validator) (s : State) (caller : Option Party) (r : Request) :
    Except Failure State × Validator :=
  carryOut v (s.planChange caller r)

end State

end Handover

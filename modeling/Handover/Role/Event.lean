import Handover.Role.State
import Handover.Role.Request

/-!
The attribution of a successful change: who acted, by which kind of request, and what came of it.
-/
namespace Handover

structure Event where
  ns : String
  kind : String
  admin : Option String
  proposed : Option String
  sender : String
  deriving DecidableEq, Repr

namespace Event

def missing : String := "None"

def action : String := "update_admin"

def ofState (ns : String) (r : Request) (s : State) (sender : Option Party) : Event :=
  ⟨ns, r.kind, s.view.admin, s.view.proposed, (sender.map Party.name).getD missing⟩

def attributes (e : Event) : List (String × String) :=
  [("action", action), ("admin", e.admin.getD missing), ("proposed", e.proposed.getD missing),
    ("sender", e.sender)]

def members (e : Event) : List (String × Json) :=
  [("action", .string action), ("namespace", .string e.ns), ("request_kind", .string e.kind),
    ("admin", .ofText? e.admin), ("proposed", .ofText? e.proposed), ("sender", .string e.sender)]

def text (e : Event) : String := (Json.object e.members).sortMembers.write Json.spaced

end Event

end Handover

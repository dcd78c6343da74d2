import Handover.Json.Printer
import Handover.Json.Reader
import Handover.Role.State
import Handover.Wire.Issue

/-!
The response to a client. It may carry members that are not of interest here.
-/
namespace Handover.Wire

structure Response where
  admin : Option String
  proposed : Option String
  deriving DecidableEq, Repr

namespace Response

def formName : String := "SecureAdminResponse"

def ofMembers (ms : List (String × Json)) : Checked Response :=
  .ap (.ap (.ok Response.mk) (member "admin" none readText? ms)) (member "proposed" none readText? ms)

def ofJson (o : Origin) : Json → Checked Response
  | .object ms => ofMembers ms
  | _ => .fail (o.notObject formName)

def ofBytes (b : ByteArray) : Checked Response :=
  match Json.readBytes? .standard b with
  | some j => ofJson .text j
  | none => .fail .notJson

def ofView (v : View) : Response := ⟨v.admin, v.proposed⟩

def members (r : Response) : List (String × Json) :=
  [("admin", .ofText? r.admin), ("proposed", .ofText? r.proposed)]

def text (r : Response) : String := (Json.object r.members).write Json.compact

end Response

end Handover.Wire

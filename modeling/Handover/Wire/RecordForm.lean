import Handover.Json.Printer
import Handover.Json.Reader
import Handover.Role.Record
import Handover.Wire.Issue

/-!
The written form of a record: one object of three members, each of which may be left out.
-/
namespace Handover.Wire

structure RecordForm where
  abolished : Bool
  admin : Option String
  proposed : Option String
  deriving DecidableEq, Repr

namespace RecordForm

def formName : String := "AdminRecordModel"

def fieldNames : List String := ["abolished", "admin", "proposed"]

def ofMembers (ms : List (String × Json)) : Checked RecordForm :=
  Checked.plus
    (.ap (.ap (.ap (.ok RecordForm.mk) (member "abolished" false readFlag ms))
      (member "admin" none readText? ms)) (member "proposed" none readText? ms))
    (unknownMembers fieldNames ms)

def ofJson (o : Origin) : Json → Checked RecordForm
  | .object ms => ofMembers ms
  | _ => .fail (o.notObject formName)

def ofBytes (b : ByteArray) : Checked RecordForm :=
  match Json.readBytes? .standard b with
  | some j => ofJson .text j
  | none => .fail .notJson

def toJson (f : RecordForm) : Json :=
  .object [("abolished", .bool f.abolished), ("admin", .ofText? f.admin),
    ("proposed", .ofText? f.proposed)]

def text (f : RecordForm) : String := f.toJson.write Json.compact

def toBytes (f : RecordForm) : ByteArray := f.text.toUTF8

def ofRecord (r : Record) : Checked RecordForm := ofJson .value (.object r.members)

def toRecord (f : RecordForm) : Except Flaw Record :=
  Record.make (.bool f.abolished) (f.admin.map Party.named) (f.proposed.map Party.named)

end RecordForm

end Handover.Wire

import Handover.Proofs.WrittenValue
import Handover.Role.State
import Handover.Store.Basic

/-!
What a store of bytes gives back. A form survives its bytes, and a state whose places are held by
identities survives the whole way through record, form and bytes. A party that is a mere text does
not: it comes back as an identity.
-/
namespace Handover

namespace Wire

theorem readOptionalText (s : Option String) : readText? (.ofText? s) = .ok s := by
  cases s <;> rfl

theorem ofMembersFull (abolished : Bool) (admin proposed : Option String) :
    RecordForm.ofMembers [("abolished", .bool abolished), ("admin", .ofText? admin),
      ("proposed", .ofText? proposed)] = .ok ⟨abolished, admin, proposed⟩ := by
  have found : member "admin" none readText? [("abolished", .bool abolished),
      ("admin", .ofText? admin), ("proposed", .ofText? proposed)] = .ok admin := by
    simp [member, Table.get?, readOptionalText, Checked.under]
  have next : member "proposed" none readText? [("abolished", .bool abolished),
      ("admin", .ofText? admin), ("proposed", .ofText? proposed)] = .ok proposed := by
    simp [member, Table.get?, readOptionalText, Checked.under]
  have known : unknownMembers RecordForm.fieldNames [("abolished", .bool abolished),
      ("admin", .ofText? admin), ("proposed", .ofText? proposed)] = [] := by
    simp [unknownMembers, RecordForm.fieldNames]
  rw [RecordForm.ofMembers, found, next, known]
  rfl

theorem toJsonFits (f : RecordForm) : Json.Fits .standard Json.Limits.standard.depth f.toJson := by
  simp [RecordForm.toJson, Json.Limits.standard, Json.Fits, Json.MembersFit, Json.textFits]

theorem ofBytesText {text : String} {j : Json} (read : Json.read? .standard text = some j) :
    RecordForm.ofBytes text.toUTF8 = RecordForm.ofJson .text j := by
  rw [RecordForm.ofBytes, Json.readBytesText, read]

theorem ofBytesNoText {text : String} (unread : Json.read? .standard text = none) :
    RecordForm.ofBytes text.toUTF8 = .fail .notJson := by
  rw [RecordForm.ofBytes, Json.readBytesText, unread]

theorem ofBytesToBytes (f : RecordForm) : RecordForm.ofBytes f.toBytes = .ok f :=
  (ofBytesText (Json.readWritten Json.compactReadable .standard f.toJson (toJsonFits f))).trans
    (ofMembersFull f.abolished f.admin f.proposed)

end Wire

inductive State.Filled : State → Prop
  | vacant : Filled .vacant
  | owned (admin : Identity) : Filled (.owned (some (.identity admin)))
  | offered (admin proposed : Identity) :
      Filled (.offered (some (.identity admin)) (some (.identity proposed)))
  | abolished : Filled .abolished

def State.form (s : State) : Wire.RecordForm := ⟨s.isAbolished, s.view.admin, s.view.proposed⟩

theorem filledToRecord {s : State} (filled : s.Filled) : ∃ r, s.toRecord = .ok r := by
  cases filled <;> exact ⟨_, rfl⟩

theorem recordOfForm {s : State} (filled : s.Filled) :
    ∃ r, s.form.toRecord = .ok r ∧ State.ofRecord (some r) = s := by
  cases filled <;> exact ⟨_, rfl, rfl⟩

namespace ByteStore

def stateAt (s : ByteStore) (ns : String) : Except Fault State := (s.get ns).map State.ofRecord

theorem stateAtEmpty (ns : String) : empty.stateAt ns = .ok .vacant := rfl

theorem cellPlant (s : ByteStore) (ns : String) (b : ByteArray) :
    (s.plant ns b).cell? ns = some b := Table.getPutSelf ns b s.cells

theorem cellPlantOther (s : ByteStore) {ns other : String} (b : ByteArray) (h : other ≠ ns) :
    (s.plant ns b).cell? other = s.cell? other := Table.getPutOther b s.cells h

theorem getCells {s t : ByteStore} {ns : String} (same : s.cell? ns = t.cell? ns) :
    s.get ns = t.get ns := by
  rw [get, get, same]

theorem stateAtCells {s t : ByteStore} {ns : String} (same : s.cell? ns = t.cell? ns) :
    s.stateAt ns = t.stateAt ns := by
  rw [stateAt, stateAt, getCells same]

theorem stateAtPlant (s : ByteStore) (ns : String) {next : State} (filled : next.Filled) :
    (s.plant ns next.form.toBytes).stateAt ns = .ok next := by
  obtain ⟨r, kept, same⟩ := recordOfForm filled
  have mapped : next.form.toRecord.mapError Fault.record = .ok r := mapErrorOk.mpr kept
  have decoded : decode ns next.form.toBytes = .ok r := by
    rw [decode, Wire.ofBytesToBytes]
    exact mapped
  rw [stateAt, get, cellPlant]
  simp only [decoded, Except.map, same]

theorem setState (s : ByteStore) (ns : String) {next : State} {r : Record}
    (flat : next.toRecord = .ok r) : s.set ns r = .ok (s.plant ns next.form.toBytes) := by
  simp only [State.toRecord, Record.make] at flat
  split at flat <;> try contradiction
  split at flat <;> try contradiction
  cases flat
  simp only [set, Wire.RecordForm.ofRecord, Wire.RecordForm.ofJson, Record.members,
    Wire.ofMembersFull]
  rfl

end ByteStore

end Handover

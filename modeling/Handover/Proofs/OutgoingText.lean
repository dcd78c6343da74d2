import Handover.Role.Event
import Handover.Wire.Response
import Handover.Proofs.ProductionLine
import Handover.Proofs.StoredRecord

/-!
The texts that go out. An event is written in visible ASCII and read back member by member; a response keeps
the characters beyond ASCII as they are, and a client reads the response that was written.
-/
namespace Handover

namespace Json

def Wide (c : Char) : Prop := 0x80 ≤ c.toNat

instance (c : Char) : Decidable (Wide c) := inferInstanceAs (Decidable (_ ≤ _))

def wide (cs : List Char) : List Char := cs.filter (Wide ·)

theorem wideAppend (cs ds : List Char) : wide (cs ++ ds) = wide cs ++ wide ds := List.filter_append _ _

theorem wideNext {c : Char} (low : ¬ Wide c) (cs : List Char) : wide (c :: cs) = wide cs :=
  List.filter_cons_of_neg (by simpa using low)

theorem escapeWide (c : Char) : wide (escapeChar false c) = wide [c] := by
  by_cases high : Wide c
  · have apart {x : Char} (low : x.toNat < 0x80) : c ≠ x := fun same =>
      absurd (same ▸ high) (Nat.not_le.mpr low)
    have above : 0x80 ≤ c.toNat := high
    have solid : c.toNat ≠ 8 ∧ c.toNat ≠ 12 ∧ ¬ c.toNat < 0x20 := by omega
    have kept : escapeChar false c = [c] := by
      simp only [escapeChar, solid, apart (by decide : '"'.toNat < 0x80),
        apart (by decide : '\\'.toNat < 0x80), apart (by decide : '\n'.toNat < 0x80),
        apart (by decide : '\r'.toNat < 0x80), apart (by decide : '\t'.toNat < 0x80), decide_false,
        Bool.or_false, Bool.false_eq_true, if_false, Bool.not_false, Bool.true_or, if_true]
    rw [kept]
  · have low : c.toNat < 0x80 := Nat.not_le.mp high
    have ascii : ∀ n < 0x80, wide (escapeChar false (Char.ofNat n)) = wide [Char.ofNat n] := by
      decide +kernel
    simpa using ascii c.toNat low

theorem quotedWide (cs : List Char) : wide (quoteChars false cs) = wide cs := by
  have inside : wide (cs.flatMap (escapeChar false)) = wide cs := by
    induction cs with
    | nil => rfl
    | cons c cs ih =>
      rw [List.flatMap_cons, wideAppend, ih, escapeWide, ← wideAppend, List.singleton_append]
  have mark : ¬ Wide '"' := by decide
  rw [quoteChars, wideAppend, wideNext mark, wideNext mark, inside]
  exact List.append_nil _

theorem ofTextInjective {a b : Option String} (same : ofText? a = ofText? b) : a = b := by
  cases a <;> cases b <;> simp_all [ofText?]

structure Shows (members : List (String × Json)) (name : String) (value : Option String) : Prop where
  null : Table.get? name members = some .null ↔ value = none
  text : ∀ s, Table.get? name members = some (.string s) ↔ value = some s

theorem showsText {members : List (String × Json)} {name : String} {value : Option String}
    (found : Table.get? name members = some (ofText? value)) : Shows members name value := by
  constructor <;> cases value <;> simp [found, ofText?]

end Json

namespace Event

variable (e : Event)

theorem membersUnique : (e.members.map Prod.fst).Nodup := by
  change ["action", "namespace", "request_kind", "admin", "proposed", "sender"].Nodup
  decide

theorem membersText : ∀ f ∈ e.members, ∃ s, f.2 = Json.ofText? s := by
  simp only [members, List.forall_mem_cons, List.not_mem_nil, false_imp_iff, implies_true, and_true]
  exact ⟨⟨some _, rfl⟩, ⟨some _, rfl⟩, ⟨some _, rfl⟩, ⟨_, rfl⟩, ⟨_, rfl⟩,
    ⟨some _, rfl⟩⟩

theorem membersScalar : ∀ f ∈ e.members, f.2.Scalar := by
  intro f member
  obtain ⟨s, same⟩ := e.membersText f member
  rw [same]
  cases s <;> trivial

theorem membersShort (lim : Json.Limits) : ∀ f ∈ e.members, f.2.Short lim := by
  intro f member n number
  obtain ⟨s, same⟩ := e.membersText f member
  rw [same] at number
  cases s <;> cases number

theorem textWritten : e.text = (Json.object (Table.sorted e.members)).write Json.spaced := by
  rw [text, Json.sortedObject e.membersScalar]

theorem textVisible : ∀ c ∈ e.text.toList, Json.Visible c := by
  rw [textWritten]
  exact Json.objectVisible (Json.sortedScalar e.membersScalar)

theorem textRead {lim : Json.Limits} (deep : 0 < lim.depth) :
    Json.read? lim e.text = some (.object (Table.sorted e.members)) := by
  rw [textWritten]
  exact Json.sortedRead e.membersUnique e.membersScalar (e.membersShort lim) deep

theorem getSorted (name : String) : Table.get? name (Table.sorted e.members) = Table.get? name e.members :=
  Table.getPerm (Table.sortedPerm _) e.membersUnique

theorem textInjective {e e' : Event} (same : e.text = e'.text) : e = e' := by
  have deep : 0 < Json.Limits.standard.depth := by decide
  have read := e.textRead deep
  rw [same, e'.textRead deep, Option.some.injEq, Json.object.injEq] at read
  have found (name : String) : Table.get? name e.members = Table.get? name e'.members := by
    rw [← e.getSorted, ← e'.getSorted, read]
  obtain ⟨ns, kind, admin, proposed, sender⟩ := e
  obtain ⟨ns', kind', admin', proposed', sender'⟩ := e'
  obtain rfl : ns = ns' := by simpa [members, Table.get?] using found "namespace"
  obtain rfl : kind = kind' := by simpa [members, Table.get?] using found "request_kind"
  obtain rfl : admin = admin' := Json.ofTextInjective (Option.some.inj (found "admin"))
  obtain rfl : proposed = proposed' := Json.ofTextInjective (Option.some.inj (found "proposed"))
  obtain rfl : sender = sender' := by simpa [members, Table.get?] using found "sender"
  rfl

end Event

namespace Wire.Response

variable (r : Response)

theorem ofMembersOwn : ofMembers r.members = .ok r := by
  have admin : member "admin" none readText? r.members = .ok r.admin := by
    simp [members, member, Table.get?, readOptionalText, Checked.under]
  have proposed : member "proposed" none readText? r.members = .ok r.proposed := by
    simp [members, member, Table.get?, readOptionalText, Checked.under]
  rw [ofMembers, admin, proposed]
  rfl

theorem fits : Json.Fits .standard Json.Limits.standard.depth (.object r.members) := by
  simp [members, Json.Limits.standard, Json.Fits, Json.MembersFit, Json.textFits]

theorem readsAgain : ofBytes r.text.toUTF8 = .ok r := by
  have read := Json.readWritten Json.compactReadable .standard _ r.fits
  rw [ofBytes, Json.readBytesText, text, read]
  exact r.ofMembersOwn

theorem textWide : Json.wide r.text.toList =
    Json.wide (r.admin.getD "").toList ++ Json.wide (r.proposed.getD "").toList := by
  have shown (s : Option String) :
      Json.wide (Json.chars Json.compact (.ofText? s)) = Json.wide (s.getD "").toList := by
    cases s with
    | none => rfl
    | some s => exact Json.quotedWide s.toList
  have opened : ¬ Json.Wide '\x7b' := by decide
  rw [text, Json.write, String.toList_ofList, Json.chars, members, Json.wideAppend, Json.wideNext opened]
  simp only [Json.memberChars, Json.wideAppend, shown]
  have admin : Json.wide (Json.compact.quote "admin".toList) = [] := by decide
  have proposed : Json.wide (Json.compact.quote "proposed".toList) = [] := by decide
  rw [admin, proposed]
  simp [Json.wide, Json.Wide, Json.compact]

end Wire.Response

/-- What goes out comes back. An event comes to visible ASCII that reads back as its members, a missing party
apart from every text, so no two events have one text. A response names the parties of its view and is read
by a client as it was, with the characters beyond ASCII unescaped. -/
theorem outgoingText :
    (∀ e : Event, (∀ c ∈ e.text.toList, Json.Visible c) ∧
      ∃ members : List (String × Json), members.Perm e.members ∧
        members.Pairwise (fun a b => a.1 < b.1) ∧
        (∀ lim : Json.Limits, 0 < lim.depth → Json.read? lim e.text = some (.object members)) ∧
        Json.Shows members "admin" e.admin ∧ Json.Shows members "proposed" e.proposed) ∧
    (∀ e e' : Event, e.text = e'.text → e = e') ∧
    ∀ v : View, let r := Wire.Response.ofView v
      r.admin = v.admin ∧ r.proposed = v.proposed ∧
      Wire.Response.ofBytes r.text.toUTF8 = .ok r ∧
        Json.wide r.text.toList =
          Json.wide (v.admin.getD "").toList ++ Json.wide (v.proposed.getD "").toList := by
  refine ⟨fun e => ⟨e.textVisible, _, Table.sortedPerm _, Table.sortedStrict e.membersUnique,
    fun lim deep => e.textRead deep, Json.showsText ?_, Json.showsText ?_⟩,
    fun e e' => Event.textInjective,
    fun v => ⟨rfl, rfl, Wire.Response.readsAgain _, Wire.Response.textWide _⟩⟩
  · rw [e.getSorted]
    rfl
  · rw [e.getSorted]
    rfl

end Handover

import Handover.Proofs.AcceptedText
import Handover.Wire.RecordForm

/-!
Bytes that spell a form: the text of an object whose members are the fields of the form. They are the bytes
that are read as it.
-/
namespace Handover

namespace Json

variable {lim : Limits} {cs : List Char}

theorem numberPlain {j : Json} (number : NumberText lim cs j) (t : List (String × Json)) :
    j ≠ .object t := by
  have plain {negative : Bool} {cs : List Char} {j : Json} (size : Magnitude lim negative cs j) :
      j ≠ .object t := by
    obtain @⟨whole, _, frac, _, exp, -, -, -⟩ := size
    unfold numberOf
    split
    · split <;> simp
    · simp
  cases number with
  | positive size | negative size => exact plain size
  | undefined | infinite | infiniteBelow => simp

theorem objectElement {t : List (String × Json)} :
    ElementText lim lim.depth cs (.object t) ↔
      ∃ members, ObjectText lim cs members ∧ Table.putAll members [] = t := by
  constructor
  · intro element
    -- the depth and the value are indices of the grammar, so they become variables for the cases
    generalize level : lim.depth = depth at element
    obtain ⟨lead, value, trail⟩ := element
    generalize object : Json.object t = j at value
    cases value with
    | number number => exact (numberPlain number t object.symm).elim
    | emptyObject blank =>
      cases object
      refine ⟨[], ?_, rfl⟩
      simpa using ObjectText.empty (level ▸ Nat.succ_pos _) lead blank trail
    | object inside =>
      cases object
      exact ⟨_, by simpa using ObjectText.full level lead inside trail, rfl⟩
    | null | yes | no | string | emptyArray | array => cases object
  · rintro ⟨members, text, rfl⟩
    cases text with
    | empty level lead blank trail =>
      obtain ⟨depth, same⟩ := Nat.exists_eq_add_of_lt level
      rw [Nat.zero_add] at same
      have value : ValueText lim (depth + 1) _ _ := .emptyObject blank
      rw [same]
      simpa [Table.putAll] using ElementText.mk lead value trail
    | full level lead inside trail =>
      rw [level]
      simpa using ElementText.mk lead (ValueText.object inside) trail

end Json

namespace Wire

def lastValue? (name : String) (members : List (String × Json)) : Option Json :=
  Table.get? name members.reverse

inductive Stands {α : Type} (accepts : Json → α → Prop) (default : α) : Option Json → α → Prop
  | missing : Stands accepts default none default
  | given {j : Json} {a : α} (accepted : accepts j a) : Stands accepts default (some j) a

inductive TextOrNull : Json → Option String → Prop
  | null : TextOrNull .null none
  | text (s : String) : TextOrNull (.string s) (some s)

inductive FlagLike : Json → Bool → Prop
  | value {j : Json} {b : Bool} (counts : j.toInt? = some (if b then 1 else 0)) : FlagLike j b
  | yes {s : String} (word : String.ofList (s.toList.map Char.toLower) ∈ yesWords) :
    FlagLike (.string s) true
  | no {s : String} (word : String.ofList (s.toList.map Char.toLower) ∈ noWords) :
    FlagLike (.string s) false

namespace RecordForm

structure Fields (members : List (String × Json)) (f : RecordForm) : Prop where
  known : ∀ m ∈ members, m.1 ∈ fieldNames
  abolished : Stands FlagLike false (lastValue? "abolished" members) f.abolished
  admin : Stands TextOrNull none (lastValue? "admin" members) f.admin
  proposed : Stands TextOrNull none (lastValue? "proposed" members) f.proposed

def Spelled (raw : ByteArray) (f : RecordForm) : Prop :=
  ∃ (text : String) (members : List (String × Json)),
    raw = text.toUTF8 ∧ Json.ObjectText .standard text.toList members ∧ Fields members f

end RecordForm

theorem textOrNullRead {j : Json} {s : Option String} : readText? j = .ok s ↔ TextOrNull j s := by
  constructor
  · intro read
    cases j <;> cases read
    · exact .null
    · exact .text _
  · rintro (_ | s) <;> rfl

theorem flagNumberRead {least : Int} {n : Option Int} {b : Bool} :
    readFlagNumber least n = .ok b ↔ n = some (if b then 1 else 0) := by
  unfold readFlagNumber
  split
  · cases b <;> simp
  · cases b <;> simp
  · rename_i n other other'
    have strange : n ≠ if b then 1 else 0 := by
      cases b
      · exact other
      · exact other'
    simp [Checked.fail, strange]
  · simp [Checked.fail]

theorem flagWordRead {s : String} {b : Bool} :
    readFlagWord s = .ok b ↔ FlagLike (.string s) b := by
  have apart : ∀ w ∈ noWords, w ∉ yesWords := by decide
  unfold readFlagWord
  constructor
  · intro read
    simp only at read
    split at read
    · rename_i word
      cases read
      exact .yes (by simpa using word)
    split at read
    · rename_i word
      cases read
      exact .no (by simpa using word)
    · cases read
  · intro flag
    cases flag with
    | value counts => cases counts
    | yes word => simp [word]
    | no word => simp [apart _ word, word]

theorem flagRead {j : Json} {b : Bool} : readFlag j = .ok b ↔ FlagLike j b := by
  cases j with
  | string s => exact flagWordRead
  | int n | real x =>
    rw [readFlag, flagNumberRead]
    exact ⟨fun counts => .value counts, fun flag => by cases flag; assumption⟩
  | bool c =>
    constructor
    · intro read
      cases read
      exact .value rfl
    · intro flag
      cases flag with
      | value counts => cases b <;> cases c <;> first | rfl | cases counts
  | null | array items | object members =>
    constructor
    · intro read
      cases read
    · intro flag
      cases flag with
      | value counts => cases counts

theorem memberRead {α : Type} {name : String} {default : α} {read : Json → Checked α}
    {accepts : Json → α → Prop} (same : ∀ j a, read j = .ok a ↔ accepts j a)
    {members : List (String × Json)} {a : α} :
    member name default read (Table.putAll members []) = .ok a ↔
      Stands accepts default (lastValue? name members) a := by
  have last : Table.get? name (Table.putAll members []) = lastValue? name members :=
    (Table.getPutAll name members []).trans (Option.or_none)
  rw [member, last]
  cases lastValue? name members with
  | none =>
    constructor
    · intro absent
      cases absent
      exact .missing
    · rintro ⟨⟩
      rfl
  | some j =>
    simp only [Checked.underOk, same]
    exact ⟨.given, fun given => by cases given; assumption⟩

theorem namesKnown {known : List String} {members : List (String × Json)} :
    unknownMembers known (Table.putAll members []) = [] ↔ ∀ m ∈ members, m.1 ∈ known := by
  have byName (t : List (String × Json)) :
      (∀ m ∈ t, m.1 ∈ known) ↔ ∀ name ∈ t.map Prod.fst, name ∈ known := List.forall_mem_map.symm
  simp only [unknownMembers, List.map_eq_nil_iff, List.filter_eq_nil_iff, Bool.not_eq_true,
    Bool.not_eq_false', List.contains_iff_mem]
  rw [byName, byName]
  simp only [Table.putAllNamed, List.map_nil, List.not_mem_nil, or_false]

namespace RecordForm

theorem fieldsRead {members : List (String × Json)} {f : RecordForm} :
    ofMembers (Table.putAll members []) = .ok f ↔ Fields members f := by
  simp only [ofMembers, Checked.plusOk, Checked.apOk, namesKnown, Except.ok.injEq,
    memberRead fun _ _ => flagRead, memberRead fun _ _ => textOrNullRead]
  constructor
  · rintro ⟨⟨_, _, ⟨_, _, ⟨_, _, rfl, abolished, rfl⟩, admin, rfl⟩, proposed, rfl⟩, known⟩
    exact ⟨known, abolished, admin, proposed⟩
  · rintro ⟨known, abolished, admin, proposed⟩
    exact ⟨⟨_, _, ⟨_, _, ⟨_, _, rfl, abolished, rfl⟩, admin, rfl⟩, proposed, rfl⟩, known⟩

theorem bytesRead {raw : ByteArray} {j : Json} :
    Json.readBytes? .standard raw = some j ↔
      ∃ text : String, raw = text.toUTF8 ∧
        Json.ElementText .standard Json.Limits.standard.depth text.toList j := by
  rw [Json.readBytes?, Option.bind_eq_some_iff]
  constructor
  · rintro ⟨text, valid, read⟩
    refine ⟨text, ?_, Json.readIff.mp read⟩
    unfold String.fromUTF8? at valid
    split at valid
    · cases valid
      rfl
    · cases valid
  · rintro ⟨text, rfl, element⟩
    exact ⟨text, Json.utf8RoundTrip text, Json.readIff.mpr element⟩

theorem spelledRead {raw : ByteArray} {f : RecordForm} : ofBytes raw = .ok f ↔ Spelled raw f := by
  constructor
  · intro read
    unfold ofBytes at read
    split at read
    · rename_i j found
      obtain ⟨text, shape, element⟩ := bytesRead.mp found
      cases j with
      | object t =>
        obtain ⟨members, object, rfl⟩ := Json.objectElement.mp element
        exact ⟨text, members, shape, object, fieldsRead.mp read⟩
      | null | bool | int | real | string | array => cases read
    · cases read
  · rintro ⟨text, members, shape, object, fields⟩
    have found := bytesRead.mpr ⟨text, shape, Json.objectElement.mpr ⟨members, object, rfl⟩⟩
    rw [ofBytes, found]
    exact fieldsRead.mpr fields

end RecordForm

end Wire

end Handover

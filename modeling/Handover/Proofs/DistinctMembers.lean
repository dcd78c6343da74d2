import Handover.Json.Reader

/-!
Values whose objects name no member twice, at any depth. The reader gives no others: of a member that a
text repeats it keeps one.
-/
namespace Handover.Json

mutual

def Distinct : Json → Prop
  | .array items => ItemsDistinct items
  | .object members => (members.map Prod.fst).Nodup ∧ MembersDistinct members
  | _ => True

def ItemsDistinct : List Json → Prop
  | [] => True
  | x :: rest => Distinct x ∧ ItemsDistinct rest

def MembersDistinct : List (String × Json) → Prop
  | [] => True
  | (_, x) :: rest => Distinct x ∧ MembersDistinct rest

end

theorem membersDistinctIff {members : List (String × Json)} :
    MembersDistinct members ↔ ∀ m ∈ members, m.2.Distinct := by
  induction members with
  | nil => simp [MembersDistinct]
  | cons m members ih =>
    obtain ⟨k, x⟩ := m
    simp [MembersDistinct, ih]

theorem distinctObject {members : List (String × Json)} :
    (Json.object members).Distinct ↔
      (members.map Prod.fst).Nodup ∧ ∀ m ∈ members, m.2.Distinct := by
  rw [Distinct, membersDistinctIff]

theorem distinctMerged {members : List (String × Json)} (distinct : MembersDistinct members) :
    (Json.object (Table.putAll members [])).Distinct := by
  rw [distinctObject]
  refine ⟨Table.putAllUnique members List.nodup_nil, fun m member => ?_⟩
  rcases Table.putAllMember member with inside | nothing
  · exact membersDistinctIff.mp distinct m inside
  · cases nothing

theorem magnitudeDistinct {lim : Limits} {negative : Bool} {cs rest : List Char} {j : Json}
    (read : magnitude? lim negative cs = some (j, rest)) : j.Distinct := by
  simp only [magnitude?, bind, Option.bind_eq_some_iff] at read
  obtain ⟨whole, -, frac, -, exp, -, last⟩ := read
  split at last <;> cases Option.some.inj last <;> trivial

theorem numberDistinct {lim : Limits} {cs rest : List Char} {j : Json}
    (read : number? lim cs = some (j, rest)) : j.Distinct := by
  unfold number? at read
  split at read
  · cases read; trivial
  · cases read; trivial
  · cases read; trivial
  · exact magnitudeDistinct read
  · exact magnitudeDistinct read

section
variable {lim : Limits}

/- The three readers call each other with one unit of fuel less, so the induction is on the fuel. -/
mutual

theorem valueDistinct : ∀ (fuel depth : Nat) {cs rest : List Char} {j : Json},
    value? lim fuel depth cs = some (j, rest) → j.Distinct
  | 0, depth, cs, rest, j, read => by
    rw [value?] at read
    cases read
  | fuel + 1, depth, cs, rest, j, read => by
    rw [value?] at read
    split at read
    · cases read; trivial
    · cases read; trivial
    · cases read; trivial
    · obtain ⟨text, -, same⟩ := Option.map_eq_some_iff.mp read
      cases same
      trivial
    · split at read
      · cases read
      · split at read
        · cases read; trivial
        · obtain ⟨⟨items, later⟩, found, same⟩ := Option.map_eq_some_iff.mp read
          cases same
          rw [Distinct]
          exact itemsDistinct fuel _ found
    · split at read
      · cases read
      · split at read
        · cases read
          rw [distinctObject]
          simp
        · obtain ⟨⟨members, later⟩, found, same⟩ := Option.map_eq_some_iff.mp read
          cases same
          exact distinctMerged (membersDistinct fuel _ found)
    · exact numberDistinct read

theorem itemsDistinct : ∀ (fuel depth : Nat) {cs rest : List Char} {items : List Json},
    items? lim fuel depth cs = some (items, rest) → ItemsDistinct items
  | 0, depth, cs, rest, items, read => by
    rw [items?] at read
    cases read
  | fuel + 1, depth, cs, rest, items, read => by
    rw [items?] at read
    split at read
    · cases read
    rename_i x later first
    have head := valueDistinct fuel depth first
    split at read
    · cases read
      exact ⟨head, trivial⟩
    · obtain ⟨⟨items, last⟩, found, same⟩ := Option.map_eq_some_iff.mp read
      cases same
      exact ⟨head, itemsDistinct fuel depth found⟩
    · cases read

theorem membersDistinct : ∀ (fuel depth : Nat) {cs rest : List Char}
    {members : List (String × Json)},
    members? lim fuel depth cs = some (members, rest) → MembersDistinct members
  | 0, depth, cs, rest, members, read => by
    rw [members?] at read
    cases read
  | fuel + 1, depth, cs, rest, members, read => by
    rw [members?] at read
    split at read <;> try contradiction
    split at read <;> try contradiction
    split at read <;> try contradiction
    split at read <;> try contradiction
    rename_i x later first
    have head := valueDistinct fuel depth first
    split at read
    · cases read
      exact ⟨head, trivial⟩
    · obtain ⟨⟨members, last⟩, found, same⟩ := Option.map_eq_some_iff.mp read
      cases same
      exact ⟨head, membersDistinct fuel depth found⟩
    · cases read

end

theorem readDistinct {s : String} {j : Json} (read : read? lim s = some j) : j.Distinct := by
  unfold read? readChars? at read
  split at read
  · rename_i found
    split at read
    · cases read
      exact valueDistinct _ _ found
    · cases read
  · cases read

theorem readBytesDistinct {b : ByteArray} {j : Json} (read : readBytes? lim b = some j) :
    j.Distinct := by
  obtain ⟨text, -, read⟩ := Option.bind_eq_some_iff.mp read
  exact readDistinct read

end

end Handover.Json

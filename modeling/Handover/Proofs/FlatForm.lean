import Handover.Proofs.KeptRecord

/-!
States and flat records as two forms of one role. A state whose places are held becomes a record and comes
back, and a record whose flag is true or false becomes a state and comes back. A state may also lack a party
in a place that its kind has. It then comes back as the kind that has just the parties it names, unless it
names a successor to nobody: no record does.
-/
namespace Handover

namespace State

inductive Whole : State → Prop
  | vacant : Whole .vacant
  | owned (admin : Party) : Whole (.owned (some admin))
  | offered (admin proposed : Party) : Whole (.offered (some admin) (some proposed))
  | abolished : Whole .abolished

def trimmed : State → State
  | .owned none | .offered none none => .vacant
  | .offered admin none => .owned admin
  | s => s

variable {s : State} {r : Record}

theorem wholeOfFilled (filled : s.Filled) : s.Whole := by
  cases filled with
  | vacant => exact .vacant
  | owned a => exact .owned _
  | offered a i => exact .offered _ _
  | abolished => exact .abolished

theorem trimmedOfWhole (whole : s.Whole) : s.trimmed = s := by
  cases whole <;> rfl

theorem flattensNot (flaw : Flaw) :
    s.toRecord = .error flaw ↔
      flaw = .loneProposal ∧ ∃ successor, s = .offered none (some successor) := by
  constructor
  · intro failed
    rcases s with _ | (_ | a) | ⟨_ | a, _ | p⟩ | _ <;> cases failed
    exact ⟨rfl, p, rfl⟩
  · rintro ⟨rfl, successor, rfl⟩
    rfl

theorem flattenedBack (flat : s.toRecord = .ok r) : ofRecord (some r) = s.trimmed := by
  obtain ⟨flag, admin, proposed⟩ := Record.makeFields flat
  simp only [ofRecord, flag, admin, proposed]
  rcases s with _ | (_ | a) | ⟨_ | a, _ | p⟩ | _
  case offered.none.some => cases flat
  all_goals rfl

theorem trimmedPlaces (flat : s.toRecord = .ok r) :
    s.trimmed.Whole ∧ s.trimmed.admin = s.admin ∧ s.trimmed.proposed = s.proposed ∧
      s.trimmed.isAbolished = s.isAbolished := by
  rcases s with _ | (_ | a) | ⟨_ | a, _ | p⟩ | _
  case vacant => exact ⟨.vacant, rfl, rfl, rfl⟩
  case owned.none => exact ⟨.vacant, rfl, rfl, rfl⟩
  case owned.some => exact ⟨.owned a, rfl, rfl, rfl⟩
  case offered.none.none => exact ⟨.vacant, rfl, rfl, rfl⟩
  case offered.none.some => cases flat
  case offered.some.none => exact ⟨.owned a, rfl, rfl, rfl⟩
  case offered.some.some => exact ⟨.offered a p, rfl, rfl, rfl⟩
  case abolished => exact ⟨.abolished, rfl, rfl, rfl⟩

end State

namespace Record

variable (r : Record)

-- The invariants of the record say that a branch of the reading drops nothing.
theorem placesRead :
    (State.ofRecord (some r)).isAbolished = r.abolished.isSet ∧
      (State.ofRecord (some r)).admin = r.admin ∧ (State.ofRecord (some r)).proposed = r.proposed := by
  simp only [State.ofRecord]
  split
  · rename_i set
    obtain ⟨admin, proposed⟩ := r.abolishedVacant set
    rw [set, admin, proposed]
    exact ⟨rfl, rfl, rfl⟩
  rename_i unset
  rw [Bool.not_eq_true] at unset
  rw [unset]
  split
  · rename_i admin
    have proposed : r.proposed = none := Decidable.byContradiction fun lone => r.proposedHasAdmin lone admin
    rw [admin, proposed]
    exact ⟨rfl, rfl, rfl⟩
  split
  · rename_i proposed
    rw [proposed]
    exact ⟨rfl, rfl, rfl⟩
  · exact ⟨rfl, rfl, rfl⟩

theorem flattenedAgain {b : Bool} (flag : r.abolished = .bool b) :
    (State.ofRecord (some r)).toRecord = .ok r := by
  obtain ⟨set, admin, proposed⟩ := r.placesRead
  have same : Json.bool r.abolished.isSet = r.abolished := by
    rw [flag]
    rfl
  rw [State.toRecord, set, admin, proposed, same]
  exact r.makeOwn

end Record

/-- A state that holds identities flattens to a record and is read back from it; what the constructor builds
over a true or false flag is read as a state and flattens back. Of the other states just those fail that
name a successor and no admin; any other is read back without its empty places. -/
theorem formsCorrespond :
    (∀ s : State, s.Filled → ∃ r, s.toRecord = .ok r ∧ r.Regular ∧ State.ofRecord (some r) = s) ∧
    (∀ (b : Bool) (admin proposed : Option Party) (r : Record),
      Record.make (.bool b) admin proposed = .ok r →
      (State.ofRecord (some r)).Whole ∧ (r.Regular → (State.ofRecord (some r)).Filled) ∧
        (State.ofRecord (some r)).toRecord = .ok r) ∧
    ∀ s : State,
      (∀ flaw, s.toRecord = .error flaw ↔
        flaw = .loneProposal ∧ ∃ successor, s = .offered none (some successor)) ∧
      ∀ r, s.toRecord = .ok r → State.ofRecord (some r) = s.trimmed ∧ s.trimmed.Whole ∧
        s.trimmed.admin = s.admin ∧ s.trimmed.proposed = s.proposed ∧
        s.trimmed.isAbolished = s.isAbolished := by
  refine ⟨fun s filled => ?_, fun b admin proposed r made => ?_, fun s => ⟨State.flattensNot, ?_⟩⟩
  · obtain ⟨r, flat, regular, -⟩ := recordOfFilled filled
    refine ⟨r, flat, regular, ?_⟩
    rw [State.flattenedBack flat, State.trimmedOfWhole (State.wholeOfFilled filled)]
  · have again := r.flattenedAgain (Record.makeFields made).1
    refine ⟨?_, fun regular => filledOfRegular fun r' same => Option.some.inj same ▸ regular, again⟩
    have whole := (State.trimmedPlaces again).1
    rwa [← State.flattenedBack again] at whole
  · intro r flat
    exact ⟨State.flattenedBack flat, State.trimmedPlaces flat⟩

theorem emptyOfferTrimmed :
    (∃ r, (State.offered (some (.named "peter")) (some (.named "miles"))).toRecord = .ok r ∧
      State.ofRecord (some r) = .offered (some (.named "peter")) (some (.named "miles"))) ∧
    (∃ r, (State.offered (some (.named "peter")) none).toRecord = .ok r ∧
      State.ofRecord (some r) = .owned (some (.named "peter")) ∧
      (State.ofRecord (some r)).toRecord = .ok r) ∧
    (State.offered none (some (.named "miles"))).toRecord = .error .loneProposal := by
  obtain ⟨states, records, places⟩ := formsCorrespond
  obtain ⟨r, flat, -, back⟩ := states _ (.offered ⟨"peter"⟩ ⟨"miles"⟩)
  have ⟨r', flat'⟩ : ∃ r, (State.offered (some (.named "peter")) none).toRecord = .ok r := ⟨_, rfl⟩
  have lone := (places (.offered none (some (.named "miles")))).1 .loneProposal
  exact ⟨⟨r, flat, back⟩, ⟨r', flat', ((places _).2 r' flat').1, (records false _ _ r' flat').2.2⟩,
    lone.mpr ⟨rfl, _, rfl⟩⟩

end Handover

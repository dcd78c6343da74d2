import Handover.Proofs.StoredRecord

/-!
Records in a store of bytes. A record as the role makes it, with a flag that is true or false and with
identities in its places, comes back as it was kept, whatever characters its names are made of. So its
bytes are the bytes of no other such record.
-/
namespace Handover

namespace Record

structure Regular (r : Record) : Prop where
  flag : ∃ b, r.abolished = .bool b
  admin : ∀ p, r.admin = some p → ∃ i : Identity, p = .identity i
  proposed : ∀ p, r.proposed = some p → ∃ i : Identity, p = .identity i

def form (r : Record) : Wire.RecordForm :=
  ⟨r.abolished.isSet, r.admin.map Party.name, r.proposed.map Party.name⟩

theorem makeOwn (r : Record) : make r.abolished r.admin r.proposed = .ok r := by
  have vacant : ¬ (r.abolished.isSet = true ∧ ¬ (r.admin = none ∧ r.proposed = none)) :=
    fun holder => holder.2 (r.abolishedVacant holder.1)
  have held : ¬ (r.proposed ≠ none ∧ r.admin = none) :=
    fun lone => r.proposedHasAdmin lone.1 lone.2
  rw [make, dif_neg vacant, dif_neg held]

theorem makeFields {abolished : Json} {admin proposed : Option Party} {r : Record}
    (made : make abolished admin proposed = .ok r) :
    r.abolished = abolished ∧ r.admin = admin ∧ r.proposed = proposed := by
  unfold make at made
  split at made <;> try contradiction
  split at made <;> try contradiction
  cases made
  exact ⟨rfl, rfl, rfl⟩

theorem namedBack {p : Option Party} (identities : ∀ x, p = some x → ∃ i : Identity, x = .identity i) :
    (p.map Party.name).map Party.named = p := by
  cases p with
  | none => rfl
  | some x =>
    obtain ⟨i, rfl⟩ := identities x rfl
    rfl

section
variable {r : Record} (regular : r.Regular)
include regular

theorem formOfRegular : Wire.RecordForm.ofRecord r = .ok r.form := by
  obtain ⟨b, flag⟩ := regular.flag
  have form : r.form = ⟨b, r.admin.map Party.name, r.proposed.map Party.name⟩ := by
    rw [Record.form, flag]
    rfl
  rw [form, Wire.RecordForm.ofRecord, members, flag]
  exact Wire.ofMembersFull b _ _

theorem regularOfForm : r.form.toRecord = .ok r := by
  obtain ⟨b, flag⟩ := regular.flag
  have same : Json.bool r.abolished.isSet = r.abolished := by
    rw [flag]
    rfl
  rw [Wire.RecordForm.toRecord, form, namedBack regular.admin, namedBack regular.proposed, same]
  exact makeOwn r

end

theorem regularOfMade {f : Wire.RecordForm} {r : Record} (made : f.toRecord = .ok r) :
    r.Regular := by
  obtain ⟨flag, admin, proposed⟩ := makeFields made
  refine ⟨⟨f.abolished, flag⟩, fun p placed => ?_, fun p placed => ?_⟩
  · rw [admin] at placed
    obtain ⟨name, -, named⟩ := Option.map_eq_some_iff.mp placed
    exact ⟨⟨name⟩, named.symm⟩
  · rw [proposed] at placed
    obtain ⟨name, -, named⟩ := Option.map_eq_some_iff.mp placed
    exact ⟨⟨name⟩, named.symm⟩

end Record

theorem filledOfRegular {found : Option Record} (regular : ∀ r, found = some r → r.Regular) :
    (State.ofRecord found).Filled := by
  cases found with
  | none => exact .vacant
  | some r =>
    have own := regular r rfl
    simp only [State.ofRecord]
    split
    · exact .abolished
    split
    · exact .vacant
    rename_i held
    obtain ⟨p, admin⟩ := Option.ne_none_iff_exists'.mp held
    obtain ⟨a, rfl⟩ := own.admin p admin
    rw [admin]
    split
    · exact .owned a
    rename_i named
    obtain ⟨q, proposed⟩ := Option.ne_none_iff_exists'.mp named
    obtain ⟨i, rfl⟩ := own.proposed q proposed
    rw [proposed]
    exact .offered a i

theorem recordOfFilled {s : State} (filled : s.Filled) :
    ∃ r, s.toRecord = .ok r ∧ r.Regular ∧ r.form = s.form ∧ r.admin = s.admin ∧
      r.proposed = s.proposed := by
  have identity (i : Identity) (p : Party) (same : some (.identity i) = some p) :
      ∃ i : Identity, p = .identity i := ⟨i, (Option.some.inj same).symm⟩
  have nobody (p : Party) (same : none = some p) : ∃ i : Identity, p = .identity i := by cases same
  cases filled with
  | vacant => exact ⟨_, rfl, ⟨⟨_, rfl⟩, nobody, nobody⟩, rfl, rfl, rfl⟩
  | owned a => exact ⟨_, rfl, ⟨⟨_, rfl⟩, identity a, nobody⟩, rfl, rfl, rfl⟩
  | offered a i => exact ⟨_, rfl, ⟨⟨_, rfl⟩, identity a, identity i⟩, rfl, rfl, rfl⟩
  | abolished => exact ⟨_, rfl, ⟨⟨_, rfl⟩, nobody, nobody⟩, rfl, rfl, rfl⟩

namespace ByteStore

variable {r : Record}

theorem decodeRegular (ns : String) (regular : r.Regular) : decode ns r.form.toBytes = .ok r := by
  rw [decode, Wire.ofBytesToBytes]
  simp only [Record.regularOfForm regular]
  rfl

theorem setRegular (s : ByteStore) (ns : String) (regular : r.Regular) :
    s.set ns r = .ok (s.plant ns r.form.toBytes) := by
  rw [set, Record.formOfRegular regular]

theorem getPlanted (s : ByteStore) (ns : String) (regular : r.Regular) :
    (s.plant ns r.form.toBytes).get ns = .ok (some r) := by
  rw [get, cellPlant]
  simp only [decodeRegular ns regular]
  rfl

theorem decodedRegular {ns : String} {raw : ByteArray} (read : decode ns raw = .ok r) : r.Regular := by
  unfold decode at read
  split at read <;> try contradiction
  rename_i form _
  cases made : form.toRecord with
  | error flaw => rw [made] at read; cases read
  | ok r' =>
    rw [made] at read
    cases read
    exact Record.regularOfMade made

theorem gotRegular {s : ByteStore} {ns : String} (read : s.get ns = .ok (some r)) : r.Regular := by
  unfold get at read
  split at read
  · cases read
  · rename_i raw _
    cases decoded : decode ns raw with
    | error f => rw [decoded] at read; cases read
    | ok r' =>
      rw [decoded] at read
      cases read
      exact decodedRegular decoded

theorem stateAtFilled {s : ByteStore} {ns : String} {st : State} (known : s.stateAt ns = .ok st) :
    st.Filled := by
  unfold stateAt at known
  cases read : s.get ns with
  | error f => rw [read] at known; cases known
  | ok found =>
    rw [read] at known
    cases known
    refine filledOfRegular fun r same => ?_
    subst same
    exact gotRegular read

/-- A regular record that is set can be got back, and no other regular record is kept as the same
bytes. -/
theorem keptComesBack (s : ByteStore) (ns : String) {r : Record} (regular : r.Regular) :
    ∃ t, s.set ns r = .ok t ∧ t.get ns = .ok (some r) ∧
      ∀ (s' : ByteStore) (ns' : String) (r' : Record), r'.Regular →
        ∃ t', s'.set ns' r' = .ok t' ∧ (t.cell? ns = t'.cell? ns' ↔ r = r') := by
  refine ⟨_, s.setRegular ns regular, s.getPlanted ns regular, ?_⟩
  intro s' ns' r' regular'
  refine ⟨_, s'.setRegular ns' regular', ?_⟩
  rw [cellPlant, cellPlant]
  constructor
  · intro same
    have bytes : r.form.toBytes = r'.form.toBytes := Option.some.inj same
    have decoded := decodeRegular ns regular
    rw [bytes, decodeRegular ns regular'] at decoded
    exact (Except.ok.inj decoded).symm
  · rintro rfl
    rfl

def oddlyNamed : Record where
  abolished := .bool false
  admin := some (.named "")
  proposed := some (.named "\"\\/\x00\n\x7f\u2028\ud7ff\uffff😀")
  abolishedVacant := fun abolished => by cases abolished
  proposedHasAdmin := fun _ vacant => by cases vacant

theorem oddNameComesBack :
    ∃ t, ByteStore.empty.set "xyz" oddlyNamed = .ok t ∧ t.get "xyz" = .ok (some oddlyNamed) ∧
      ∃ t', t.set "abc" Record.vacant = .ok t' ∧ t.cell? "xyz" ≠ t'.cell? "abc" := by
  have regular : oddlyNamed.Regular :=
    ⟨⟨false, rfl⟩, fun _ named => ⟨_, (Option.some.inj named).symm⟩,
      fun _ named => ⟨_, (Option.some.inj named).symm⟩⟩
  have vacant : Record.vacant.Regular :=
    ⟨⟨false, rfl⟩, fun _ named => (by cases named), fun _ named => (by cases named)⟩
  obtain ⟨t, kept, back, only⟩ := keptComesBack .empty "xyz" regular
  obtain ⟨t', kept', bytes⟩ := only t "abc" Record.vacant vacant
  have other : oddlyNamed ≠ Record.vacant := fun same => by
    have admins := congrArg Record.admin same
    cases admins
  exact ⟨t, kept, back, t', kept', fun same => other (bytes.mp same)⟩

end ByteStore

end Handover

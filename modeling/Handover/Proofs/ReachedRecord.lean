import Handover.Proofs.CanonicalStorage
import Handover.Proofs.FlatRole

/-!
The constructor of records admits what can be reached. Of the combinations of a flag and two places that
a validator knows, it builds the ones that some calls leave behind on a store that was empty, and
refuses the others. An absent record counts as that of a role which nobody ever held.
-/
namespace Handover

def Store.record (s : Store) (ns : String) : Except Fault Record :=
  (s.get ns).1.map fun found => found.getD Record.vacant

namespace Course

theorem recordReached {calls : List Call} {ns : String} {st : State}
    (known : (run calls).stateAt ns = .ok st) :
    ∃ r, st.toRecord = .ok r ∧ (run calls).record ns = .ok r := by
  obtain ⟨cells, bytes⟩ := runBytes calls
  cases held : cells.cell? ns with
  | none =>
    rw [bytes] at known ⊢
    simp only [Store.stateAt, Store.get, ByteStore.get, held] at known
    cases known
    refine ⟨.vacant, rfl, ?_⟩
    simp only [Store.record, Store.get, ByteStore.get, held]
    rfl
  | some raw =>
    have cell : (run calls).bytes? ns = some raw := by rw [bytes]; exact held
    obtain ⟨st', known', encoded⟩ := cellEncoded cell
    obtain rfl : st' = st := Except.ok.inj (known'.symm.trans known)
    obtain ⟨r, flat, regular, form, -⟩ := recordOfFilled (leadsFilled (leadsReached known))
    refine ⟨r, flat, ?_⟩
    rw [← form] at encoded
    subst encoded
    simp only [bytes, Store.record, Store.get, ByteStore.get, held, ByteStore.decodeRegular ns regular]
    rfl

end Course

namespace FlatRole

variable {b : Bounds} {r : FlatRole}

def record (r : FlatRole) : Except Flaw Record :=
  Record.make (.bool r.abolished) (r.admin.map .identity) (r.proposed.map .identity)

def Known (b : Bounds) (r : FlatRole) : Prop :=
  ∀ i : Identity, r.admin = some i ∨ r.proposed = some i →
    Identity.canonical b (.string i.name) = .ok i

theorem standsRecord {s : State} (stands : Stands r s) : s.toRecord = r.record := by
  rw [State.toRecord, standsAdmin stands, standsProposed stands, standsAbolished stands, record]

theorem standsOfRecord {made : Record} (constructed : r.record = .ok made) : ∃ s, Stands r s := by
  obtain ⟨abolished, admin, proposed⟩ := r
  obtain ⟨flag, holder, successor⟩ := Record.makeFields constructed
  cases abolished with
  | true =>
    obtain ⟨noHolder, noSuccessor⟩ := made.abolishedVacant (by rw [flag]; rfl)
    rw [noHolder] at holder
    rw [noSuccessor] at successor
    cases Option.map_eq_none_iff.mp holder.symm
    cases Option.map_eq_none_iff.mp successor.symm
    exact ⟨_, .abolished⟩
  | false =>
    cases admin with
    | some a =>
      cases proposed with
      | none => exact ⟨_, .owned a⟩
      | some p => exact ⟨_, .offered a p⟩
    | none =>
      cases proposed with
      | none => exact ⟨_, .vacant⟩
      | some p => exact (made.proposedHasAdmin (by simp [successor]) holder).elim

theorem runSnoc (b : Bounds) (ms : List Mutation) {m : Mutation} {next : FlatRole}
    (judged : (run b ms).judge b m = .ok next) : run b (ms ++ [m]) = next := by
  rw [run, List.foldl_append, ← run, List.foldl_cons, List.foldl_nil, after, judged]

theorem judgeCrowning {a : Identity} (accepted : Identity.canonical b (.string a.name) = .ok a) :
    fresh.judge b (.establish (.setInitialAdmin (.string a.name))) = .ok ⟨false, some a, none⟩ := by
  change (Identity.canonical b (.string a.name)).map _ = _
  rw [accepted]
  rfl

theorem judgeProposal (a : Identity) {p : Identity}
    (accepted : Identity.canonical b (.string p.name) = .ok p) :
    judge b ⟨false, some a, none⟩ (.update (some (.identity a)) (.proposeNewAdmin (.string p.name))) =
      .ok ⟨false, some a, some p⟩ := by
  have own : fills (some (.identity a)) (some a) = true := by simp [fills]
  change (if fills (some (.identity a)) (some a) then _ else _) = _
  rw [if_pos own, accepted]
  rfl

theorem standsReached {s : State} (stands : Stands r s) (known : Known b r) :
    ∃ ms, run b ms = r := by
  cases stands with
  | vacant => exact ⟨[], rfl⟩
  | abolished => exact ⟨[.establish .abolishAdminRole], rfl⟩
  | owned a => exact ⟨_, runSnoc b [] (judgeCrowning (known a (Or.inl rfl)))⟩
  | offered a p =>
    have crowned := runSnoc b [] (judgeCrowning (known a (Or.inl rfl)))
    have proposed := judgeProposal a (known p (Or.inr rfl))
    rw [← crowned] at proposed
    exact ⟨_, runSnoc b _ proposed⟩

section
variable (svc : Service) (b : Bounds) (asked : List (Host × Mutation))

theorem servedRecord :
    ∃ made, (run b (asked.map Prod.snd)).record = .ok made ∧
      (served svc b asked).record svc.ns = .ok made := by
  obtain ⟨s, known, stands⟩ := servedStands svc b asked
  obtain ⟨made, flat, loaded⟩ := Course.recordReached known
  exact ⟨made, (standsRecord stands).symm.trans flat, loaded⟩

include svc in
theorem servedKnown : Known b (run b (asked.map Prod.snd)) := by
  obtain ⟨s, known, stands⟩ := servedStands svc b asked
  have canonical : ∀ c ∈ asked.map (call svc b), c.validator = .canonical b := by
    intro c member
    obtain ⟨own, -, rfl⟩ := List.mem_map.mp member
    rfl
  intro i placed
  have accepted := Course.placesAccepted canonical known (i := i) (by
    rw [standsAdmin stands, standsProposed stands]
    exact placed.imp (fun held => by rw [held]; rfl) fun named => by rw [named]; rfl)
  simp only [Identity.canonical, accepted]

theorem servedNotRefused (h : Host) (m : Mutation) (flaw : Flaw) :
    (call svc b (h, m)).outcome (served svc b asked) ≠ .error (.fault (.record flaw)) := by
  intro refused
  obtain ⟨s, known, -⟩ := servedStands svc b asked
  have settled := Course.outcomeReached (call svc b (h, m)) known
  exact refusesNotStore (Call.verdictRefuses (settled.symm.trans refused)) (.record flaw)

end

structure Flattens (r : FlatRole) (made : Record) : Prop where
  flag : made.abolished = .bool r.abolished
  admin : made.admin = r.admin.map .identity
  proposed : made.proposed = r.proposed.map .identity

theorem flattensIff {made : Record} : Flattens r made ↔ r.record = .ok made := by
  constructor
  · intro ⟨flag, admin, proposed⟩
    rw [record, ← flag, ← admin, ← proposed]
    exact made.makeOwn
  · intro constructed
    obtain ⟨flag, admin, proposed⟩ := Record.makeFields constructed
    exact ⟨flag, admin, proposed⟩

/-- The constructor builds a record of names that the validator accepts exactly if some calls on an empty
store leave it behind. All calls leave such a record behind, and none is refused over the record that it
would keep. -/
theorem constructorAdmitsReached (svc : Service) (b : Bounds) :
    (∀ r : FlatRole, Known b r → ((∃ made, r.record = .ok made) ↔
      ∃ asked made, (served svc b asked).record svc.ns = .ok made ∧ Flattens r made)) ∧
    ∀ asked : List (Host × Mutation),
      (∃ r made, Known b r ∧ r.record = .ok made ∧ (served svc b asked).record svc.ns = .ok made) ∧
      ∀ h m flaw, (call svc b (h, m)).outcome (served svc b asked) ≠ .error (.fault (.record flaw)) := by
  constructor
  · intro r known
    constructor
    · intro ⟨made, constructed⟩
      obtain ⟨s, stands⟩ := standsOfRecord constructed
      obtain ⟨ms, reached⟩ := standsReached stands known
      let host : Host := ⟨.captured, { active := "", fields := [], time := "" }⟩
      have same : (ms.map fun m => (host, m)).map Prod.snd = ms := by simp [Function.comp_def]
      obtain ⟨made', flat, loaded⟩ := servedRecord svc b (ms.map fun m => (host, m))
      rw [same, reached] at flat
      exact ⟨_, made', loaded, flattensIff.mpr flat⟩
    · intro ⟨asked, made, loaded, flattens⟩
      exact ⟨made, flattensIff.mp flattens⟩
  · intro asked
    obtain ⟨made, flat, loaded⟩ := servedRecord svc b asked
    exact ⟨⟨_, made, servedKnown svc b asked, flat, loaded⟩, servedNotRefused svc b asked⟩

theorem ownSuccessorReached :
    ∃ asked made,
      (served ⟨"xyz", ⟨.captured, []⟩⟩ Settings.trial.bounds asked).record "xyz" = .ok made ∧
        Flattens ⟨false, some ⟨"peter"⟩, some ⟨"peter"⟩⟩ made := by
  have accepted : Identity.canonical Settings.trial.bounds (.string "peter") = .ok ⟨"peter"⟩ := rfl
  have known : Known Settings.trial.bounds ⟨false, some ⟨"peter"⟩, some ⟨"peter"⟩⟩ := by
    intro i placed
    rcases placed with held | named
    · cases held
      exact accepted
    · cases named
      exact accepted
  have admitted := constructorAdmitsReached ⟨"xyz", ⟨.captured, []⟩⟩ Settings.trial.bounds
  exact (admitted.1 _ known).mp ⟨_, rfl⟩

end FlatRole

end Handover

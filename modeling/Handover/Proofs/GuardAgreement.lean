import Handover.Proofs.StateAlone

/-!
Who may do what, asked in two ways. Collaborators ask a service through its questions and assertions; an
update meets the guards. Both read the one state of the namespace, and they agree over all bytes, those that
do not read among them.
-/
namespace Handover

def State.Admits (s : State) (who : Option Party) : Request → Prop
  | .proposeNewAdmin _ | .clearProposed | .abolishAdminRole => s.admin ≠ none ∧ s.admin = who
  | .acceptProposed => s.proposed ≠ none ∧ s.proposed = who
  | .setInitialAdmin _ | .other _ => False

def Validator.Passes (v : Validator) (shown : Option Json) : Prop :=
  ∀ raw, shown = some raw → ∃ i, (v.validate raw).1 = .ok i

section
variable {v : Validator} {s : State} {who : Option Party} {r : Request}

theorem carriesIff {plan : Plan} :
    (∃ next, (plan.carryOut v).1 = .ok next) ↔ v.Passes plan.payload? := by
  cases plan with
  | settle next => simp [Plan.carryOut, Plan.payload?, Validator.Passes]
  | validate raw fill =>
    simp only [Plan.carryOut, Plan.payload?, Validator.Passes, Option.some.injEq, forall_eq']
    cases (v.validate raw).1 <;> simp [Except.map]

theorem guardedIff {place : Option Party} {f : Fault} {plan : Plan} :
    (∃ next, (carryOut v (if place = none ∨ place ≠ who then .error f else .ok plan)).1 = .ok next) ↔
      (place ≠ none ∧ place = who) ∧ v.Passes plan.payload? := by
  by_cases other : place = none ∨ place ≠ who
  · have denied : ¬ (place ≠ none ∧ place = who) := by
      rwa [not_and_or, not_not]
    rw [if_pos other]
    simp [carryOut, denied]
  · have own : place ≠ none ∧ place = who := by
      rwa [not_or, not_not] at other
    rw [if_neg other, and_iff_right own, ← carriesIff]
    rfl

theorem requireAdminMap (plan : Option Party → Plan) :
    (s.requireAdmin who).map plan =
      if s.admin = none ∨ s.admin ≠ who then .error .notAdmin else .ok (plan s.admin) := by
  unfold State.requireAdmin
  split <;> rfl

theorem changeIff :
    (∃ next, (s.change v who r).1 = .ok next) ↔ s.Admits who r ∧ v.Passes r.payload? := by
  by_cases gone : s = .abolished
  · -- the guards do not ask for the caller here, but an abolished role has no holder to admit either
    subst gone
    cases r <;> simp [State.change, State.planChange, carryOut, State.Admits, State.admin, State.proposed]
  · unfold State.change State.planChange
    simp only [if_neg gone, requireAdminMap]
    cases r with
    | proposeNewAdmin raw => exact guardedIff
    | clearProposed => exact guardedIff
    | acceptProposed => exact guardedIff
    | abolishAdminRole => exact guardedIff
    | _ => simp [carryOut, State.Admits]

end

structure Collaborator where
  service : Service
  host : Host
  validator : Validator
  who : Option Party

namespace Collaborator

variable (k : Collaborator)

def update (r : Request) : Call := ⟨k.service, k.host, k.validator, .update k.who r⟩

def visit (errand : Errand) : Visit := ⟨k.service, k.host, k.validator, errand⟩

def finds (errand : Errand) (s : Store) : Except Failure Finding := (k.visit errand).answer s

def Succeeds (r : Request) (s : Store) : Prop :=
  ∃ e, k.finds (.change (.update k.who r)) s = .ok (.reply (.event e))

/-- Who is told to be admin or successor is let through by the guards, and nobody else is. An update that is
let through answers with its event if the log takes its entry. -/
structure Agrees (s : Store) : Prop where
  clearing : k.finds (.assertAdmin k.who) s = .ok .nothing ↔ (k.update .clearProposed).Taken s
  abolishing : k.finds (.assertAdmin k.who) s = .ok .nothing ↔ (k.update .abolishAdminRole).Taken s
  accepting : k.finds (.assertProposed k.who) s = .ok .nothing ↔ (k.update .acceptProposed).Taken s
  acting : (∃ r, k.validator.Passes r.payload? ∧ (k.update r).Taken s) ↔
    k.finds (.isAdmin k.who) s = .ok (.flag true) ∨ k.finds (.isProposed k.who) s = .ok (.flag true)
  succeeded : ∀ r, k.Succeeds r s → (k.update r).Taken s
  taken : ∀ r, (k.update r).Told ((k.update r).outcome s) → (k.update r).Taken s → k.Succeeds r s

structure Shows (s : Store) (st : State) : Prop where
  filled : st.Filled
  currentAdmin : k.finds .currentAdmin s = .ok (.party st.admin)
  proposedAdmin : k.finds .proposedAdmin s = .ok (.party st.proposed)
  isAbolished : k.finds .isAbolished s = .ok (.flag st.isAbolished)
  view : k.finds .view s = .ok (.view ⟨st.admin.map Party.name, st.proposed.map Party.name⟩)
  isAdmin : ∀ who, k.finds (.isAdmin who) s = .ok (.flag (st.admin ≠ none ∧ st.admin = who))
  isProposed : ∀ who, k.finds (.isProposed who) s = .ok (.flag (st.proposed ≠ none ∧ st.proposed = who))
  assertAdmin : ∀ who, k.finds (.assertAdmin who) s =
    if st.admin ≠ none ∧ st.admin = who then .ok .nothing else .error (.fault .notAdmin)
  assertProposed : ∀ who, k.finds (.assertProposed who) s =
    if st.proposed ≠ none ∧ st.proposed = who then .ok .nothing else .error (.fault .notProposed)

def Raises (errand : Errand) (s : Store) (f : Fault) : Prop :=
  (∃ e, k.finds errand s = .error e) ∧ ((k.visit errand).Told f → k.finds errand s = .error (.fault f))

structure Fails (s : Store) (f : Fault) : Prop where
  kind : (∃ issues, f = .storage k.service.ns (.corrupt issues)) ∨ ∃ flaw, f = .record flaw
  assertAdmin : ∀ who, k.Raises (.assertAdmin who) s f
  assertProposed : ∀ who, k.Raises (.assertProposed who) s f
  update : ∀ r, r.changesRole = true → k.Raises (.change (.update k.who r)) s f

section
variable {k : Collaborator} {b : ByteStore} {st : State} {r : Request} {f : Fault}

theorem findsLoaded (known : b.stateAt k.service.ns = .ok st) (errand : Errand) :
    k.finds errand (.bytes b) = ((k.visit errand).upshot st).answer := by
  rw [finds, visit, Visit.answer, Visit.site, Visit.performLoaded known]

theorem showsLoaded (known : b.stateAt k.service.ns = .ok st) : k.Shows (.bytes b) st where
  filled := ByteStore.stateAtFilled known
  currentAdmin := findsLoaded known _
  proposedAdmin := findsLoaded known _
  isAbolished := findsLoaded known _
  view := findsLoaded known _
  isAdmin who := findsLoaded known _
  isProposed who := findsLoaded known _
  assertAdmin who := by
    rw [findsLoaded known]
    simp only [visit, Visit.upshot, Visit.telling]
    split <;> rfl
  assertProposed who := by
    rw [findsLoaded known]
    simp only [visit, Visit.upshot, Visit.telling]
    split <;> rfl

theorem raisesDamaged {errand : Errand} (proper : (k.visit errand).proper = true)
    (damaged : b.get k.service.ns = .error f) : k.Raises errand (.bytes b) f := by
  have failed : k.finds errand (.bytes b) = .error ((k.visit errand).failure f) :=
    Visit.answerDamaged (s := .bytes b) proper damaged
  exact ⟨⟨_, failed⟩, fun told => by rw [failed, Visit.failureTold proper told]⟩

theorem failsDamaged (damaged : b.get k.service.ns = .error f) : k.Fails (.bytes b) f where
  kind := damageKinds damaged
  assertAdmin _ := raisesDamaged rfl damaged
  assertProposed _ := raisesDamaged rfl damaged
  update _ inside := raisesDamaged inside damaged

theorem takenIff (known : b.stateAt k.service.ns = .ok st) :
    (k.update r).Taken (.bytes b) ↔ st.Admits k.who r ∧ k.validator.Passes r.payload? := by
  rw [Call.Taken, Call.outcomeVerdict (c := k.update r) (ByteStore.stateAtFilled known) known, Call.verdict]
  by_cases inside : r.changesRole = true
  · have supported : (k.update r).asked.supported = true := inside
    rw [if_pos supported]
    exact changeIff
  · have outside : ¬ (k.update r).asked.supported = true := inside
    have nobody : ¬ st.Admits k.who r := by cases r <;> simp_all [Request.changesRole, State.Admits]
    rw [if_neg outside]
    simp [nobody]

theorem admitsSome {s : State} {who : Option Party} (admits : s.Admits who r) :
    s.Admits who .clearProposed ∨ s.Admits who .acceptProposed := by
  cases r with
  | acceptProposed => exact Or.inr admits
  | setInitialAdmin _ => exact admits.elim
  | other _ => exact admits.elim
  | _ => exact Or.inl admits

theorem bareTakenIff (known : b.stateAt k.service.ns = .ok st) (bare : r.payload? = none) :
    (k.update r).Taken (.bytes b) ↔ st.Admits k.who r := by
  rw [takenIff known, bare]
  simp [Validator.Passes]

theorem someTakenIff (known : b.stateAt k.service.ns = .ok st) :
    (∃ r, k.validator.Passes r.payload? ∧ (k.update r).Taken (.bytes b)) ↔
      st.Admits k.who .clearProposed ∨ st.Admits k.who .acceptProposed := by
  constructor
  · rintro ⟨r, -, taken⟩
    exact admitsSome ((takenIff known).mp taken).1
  · rintro (admin | successor)
    · exact ⟨.clearProposed, by simp [Validator.Passes, Request.payload?],
        (bareTakenIff known rfl).mpr admin⟩
    · exact ⟨.acceptProposed, by simp [Validator.Passes, Request.payload?],
        (bareTakenIff known rfl).mpr successor⟩

theorem findsUpdate (k : Collaborator) (r : Request) (s : Store) :
    k.finds (.change (.update k.who r)) s = ((k.update r).answer s).map .reply :=
  congrArg Prod.fst (Action.returnRun Finding.reply (k.update r).perform ((k.update r).site s))

theorem takenOfSuccess {s : Store} (succeeds : k.Succeeds r s) : (k.update r).Taken s := by
  obtain ⟨e, found⟩ := succeeds
  rw [findsUpdate] at found
  cases answered : (k.update r).answer s with
  | ok reply => exact takenOfAnswered answered
  | error e => rw [answered] at found; cases found

theorem successOfTaken {s : Store} (told : (k.update r).Told ((k.update r).outcome s))
    (taken : (k.update r).Taken s) : k.Succeeds r s := by
  obtain ⟨next, kept⟩ := taken
  rw [Succeeds, findsUpdate, Call.answerOutcome, Call.answerTold told, kept]
  exact ⟨_, rfl⟩

theorem agreesLoaded (known : b.stateAt k.service.ns = .ok st) : k.Agrees (.bytes b) := by
  have shows := showsLoaded known
  have admin : k.finds (.assertAdmin k.who) (.bytes b) = .ok .nothing ↔ st.Admits k.who .clearProposed := by
    rw [shows.assertAdmin]
    simp [State.Admits]
  have successor : k.finds (.assertProposed k.who) (.bytes b) = .ok .nothing ↔
      st.Admits k.who .acceptProposed := by
    rw [shows.assertProposed]
    simp [State.Admits]
  constructor
  case clearing => exact admin.trans (bareTakenIff known rfl).symm
  case abolishing => exact admin.trans (bareTakenIff (r := .abolishAdminRole) known rfl).symm
  case accepting => exact successor.trans (bareTakenIff known rfl).symm
  case acting =>
    rw [someTakenIff known, shows.isAdmin, shows.isProposed]
    simp [State.Admits]
  case succeeded => exact fun _ => takenOfSuccess
  case taken => exact fun _ told => successOfTaken told

theorem agreesDamaged (damaged : b.get k.service.ns = .error f) : k.Agrees (.bytes b) := by
  have untaken (r : Request) : ¬ (k.update r).Taken (.bytes b) := by
    rintro ⟨next, kept⟩
    obtain ⟨e, refused⟩ := Call.keptNowhere (c := k.update r) (s := .bytes b) damaged
    cases refused.symm.trans kept
  have unfound {errand : Errand} {found : Finding} (proper : (k.visit errand).proper = true) :
      k.finds errand (.bytes b) ≠ .ok found := by
    obtain ⟨⟨e, failed⟩, -⟩ := raisesDamaged proper damaged
    rw [failed]
    exact nofun
  constructor
  case clearing => exact iff_of_false (unfound rfl) (untaken _)
  case abolishing => exact iff_of_false (unfound rfl) (untaken _)
  case accepting => exact iff_of_false (unfound rfl) (untaken _)
  case acting =>
    refine iff_of_false ?_ (not_or.mpr ⟨unfound rfl, unfound rfl⟩)
    rintro ⟨r, -, taken⟩
    exact untaken r taken
  case succeeded => exact fun _ => takenOfSuccess
  case taken => exact fun _ told => successOfTaken told

end

/-- Assertions and updates agree on who may act, over any bytes. On bytes that read all questions show one
state; on others assertions and updates fail alike. -/
theorem assertionsFollowGuards (k : Collaborator) (b : ByteStore) :
    k.Agrees (.bytes b) ∧
      match b.get k.service.ns with
      | .ok kept => k.Shows (.bytes b) (.ofRecord kept)
      | .error f => k.Fails (.bytes b) f := by
  cases read : b.get k.service.ns with
  | ok kept =>
    have known : b.stateAt k.service.ns = .ok (.ofRecord kept) := by
      rw [ByteStore.stateAt, read]
      rfl
    exact ⟨agreesLoaded known, showsLoaded known⟩
  | error f => exact ⟨agreesDamaged read, failsDamaged read⟩

def peter : Collaborator where
  service := .console
  host := .console []
  validator := .canonical Settings.trial.bounds
  who := some (.named "peter")

def heldByPeter : State := .owned (some (.named "peter"))

def heldBytes : ByteStore := ByteStore.empty.plant "xyz" heldByPeter.form.toBytes

theorem heldKnown : heldBytes.stateAt peter.service.ns = .ok heldByPeter :=
  ByteStore.empty.stateAtPlant "xyz" (.owned ⟨"peter"⟩)

def loneOffer : String := "\x7b\"proposed\": \"miles\"\x7d"

def loneBytes : ByteStore := ByteStore.empty.plant "xyz" loneOffer.toUTF8

theorem loneDamaged : loneBytes.get peter.service.ns = .error (.record .loneProposal) := by
  have read : Json.read? .standard loneOffer = some (.object [("proposed", .string "miles")]) := by
    decide +kernel
  have planted : loneBytes.cell? peter.service.ns = some loneOffer.toUTF8 :=
    ByteStore.empty.cellPlant "xyz" loneOffer.toUTF8
  rw [ByteStore.get, planted]
  simp only [ByteStore.decode, Wire.ofBytesText read]
  rfl

theorem peterAsserted :
    (peter.finds (.assertAdmin peter.who) (.bytes heldBytes) = .ok .nothing ∧
      peter.Succeeds .clearProposed (.bytes heldBytes)) ∧
    peter.finds (.assertAdmin peter.who) (.bytes loneBytes) = .error (.fault (.record .loneProposal)) ∧
      peter.finds (.change (.update peter.who .clearProposed)) (.bytes loneBytes) =
        .error (.fault (.record .loneProposal)) := by
  have bound : Audit.Legible peter.service.logger.fields := Audit.legibleMade _ _ _ _
  constructor
  · obtain ⟨agrees, -⟩ := assertionsFollowGuards peter heldBytes
    have asserted : peter.finds (.assertAdmin peter.who) (.bytes heldBytes) = .ok .nothing := by
      rw [findsLoaded heldKnown]
      rfl
    exact ⟨asserted, agrees.taken _ (Call.toldLegible ⟨Audit.legibleNone, bound⟩ _)
      (agrees.clearing.mp asserted)⟩
  · -- the bytes are hidden, or the reader would run on them
    have damaged := loneDamaged
    generalize loneBytes = b at damaged ⊢
    obtain ⟨-, fails⟩ := assertionsFollowGuards peter b
    rw [damaged] at fails
    have told (errand : Errand) : (peter.visit errand).Told (.record .loneProposal) :=
      Visit.toldLegible Audit.legibleNone bound (by rintro _ _ ⟨⟩)
    exact ⟨(fails.assertAdmin _).2 (told _), (fails.update .clearProposed rfl).2 (told _)⟩

end Collaborator

end Handover

import Mathlib.Data.List.Induction
import Handover.Proofs.Authority
import Handover.Proofs.Damage
import Handover.Proofs.KeptRecord
import Handover.Proofs.Refusal

/-!
What a store holds when all names were checked. In a course of calls under one canonical validator every
place of a role is held by a name that the validator accepted when a mutation named it, an acceptance
included, for it installs a successor who was named. So every cell is the encoding of a record of such
names, and nothing that is asked of the store later fails over what it holds.
-/
namespace Handover

structure Bounds.Word (b : Bounds) (s : String) : Prop where
  nonempty : s ≠ ""
  alphabet : ∀ c ∈ s.toList, isNameChar c = true
  least : b.least ≤ s.length
  most : s.length ≤ b.most

theorem acceptedWord {b : Bounds} {s : String} (accepted : Identity.refusal? b s = none) : b.Word s := by
  unfold Identity.refusal? at accepted
  split at accepted
  · cases accepted
  rename_i nonempty
  split at accepted
  · cases accepted
  split at accepted
  · cases accepted
  split at accepted
  · cases accepted
  rename_i least
  split at accepted
  · cases accepted
  rename_i most
  split at accepted
  · cases accepted
  rename_i alphabet
  refine ⟨nonempty, ?_, by omega, by omega⟩
  simpa using alphabet

namespace Validator

theorem acceptedAgain {b : Bounds} {i : Identity} (accepted : Identity.refusal? b i.name = none) :
    ((Validator.canonical b).validate (.string i.name)).1 = .ok i :=
  Identity.canonicalAccepts.mpr ⟨rfl, accepted⟩

end Validator

section
variable {b : Bounds} {s next : State} {i : Identity}

theorem planAccepts {raw : Json} {fill : Identity → State}
    (kept : ((Plan.validate raw fill).carryOut (.canonical b)).1 = .ok next) :
    ∃ j : Identity, raw = .string j.name ∧ Identity.refusal? b j.name = none := by
  simp only [Plan.carryOut] at kept
  cases accepted : ((Validator.canonical b).validate raw).1 with
  | error e => rw [accepted] at kept; cases kept
  | ok j => exact ⟨j, Identity.canonicalAccepts.mp accepted⟩

theorem namedAccepted {m : Mutation} (kept : (m.judge (.canonical b) s).1 = .ok next)
    (named : m.named? = some i) : Identity.refusal? b i.name = none := by
  have text {j : Identity} {raw : String} (same : Json.string raw = .string j.name)
      (accepted : Identity.refusal? b j.name = none) : Identity.refusal? b raw = none := by
    cases same
    exact accepted
  unfold Mutation.named? at named
  split at named
  · rename_i raw
    cases named
    simp only [Mutation.judge, State.start, State.planStart] at kept
    split at kept
    · cases kept
    split at kept
    · cases kept
    obtain ⟨j, same, accepted⟩ := planAccepts kept
    exact text same accepted
  · rename_i caller raw
    cases named
    simp only [Mutation.judge, State.change, State.planChange] at kept
    split at kept
    · cases kept
    cases allowed : s.requireAdmin caller with
    | error f => rw [allowed] at kept; cases kept
    | ok admin =>
      rw [allowed] at kept
      obtain ⟨j, same, accepted⟩ := planAccepts kept
      exact text same accepted
  · cases named

end

namespace Course

variable {b : Bounds} {calls : List Call} {ns : String}

def Checked (P : Identity → Prop) (c : Call) : Prop :=
  ∀ {st next i}, (c.asked.judge c.validator st).1 = .ok next → c.asked.named? = some i → P i

theorem historyChecked {P : Identity → Prop} (checked : ∀ c ∈ calls, Checked P c) :
    ∀ m ∈ history ns calls, ∀ i, m.named? = some i → P i := by
  induction calls using List.reverseRecOn with
  | nil => intro m member; cases member
  | append_singleton calls c ih =>
    intro m member i named
    rw [historySnoc] at member
    rcases List.mem_append.mp member with before | now
    · exact ih (fun c' inside => checked c' (List.mem_append_left _ inside)) m before i named
    obtain ⟨st, known, -⟩ := reached calls c.service.ns
    have own : Checked P c := checked c (by simp)
    -- what the last call added it was asked for, and its own verdict has checked the name
    unfold added at now
    split at now
    · rename_i next kept
      split at now
      · cases List.mem_singleton.mp now
        rw [outcomeReached c known, Call.verdict] at kept
        split at kept
        · exact own kept named
        · cases kept
      · cases now
    · cases now

theorem placesChecked {P : Identity → Prop} (checked : ∀ c ∈ calls, Checked P c) {st : State}
    (known : (run calls).stateAt ns = .ok st) {i : Identity}
    (placed : st.admin = some (.identity i) ∨ st.proposed = some (.identity i)) : P i := by
  obtain ⟨m, member, named⟩ := leadsNamed (leadsReached known) placed
  exact historyChecked checked m member i named

theorem checkedCanonical {c : Call} (canonical : c.validator = .canonical b) :
    Checked (fun i => Identity.refusal? b i.name = none) c := by
  intro st next i kept named
  rw [canonical] at kept
  exact namedAccepted kept named

theorem placesAccepted (canonical : ∀ c ∈ calls, c.validator = .canonical b) {st : State}
    (known : (run calls).stateAt ns = .ok st) {i : Identity}
    (placed : st.admin = some (.identity i) ∨ st.proposed = some (.identity i)) :
    Identity.refusal? b i.name = none :=
  placesChecked (fun c inside => checkedCanonical (canonical c inside)) known placed

theorem cellEncoded {raw : ByteArray} (held : (run calls).bytes? ns = some raw) :
    ∃ st, (run calls).stateAt ns = .ok st ∧ raw = st.form.toBytes := by
  induction calls using List.reverseRecOn with
  | nil => cases held
  | append_singleton calls c ih =>
    by_cases here : c.service.ns = ns
    · subst here
      obtain ⟨st, known, led⟩ := reached calls c.service.ns
      cases decided : c.verdict st with
      | error e =>
        rw [runRefused known decided] at held ⊢
        exact ih held
      | ok next =>
        refine ⟨next, (runTaken known decided).1, ?_⟩
        obtain ⟨cells, bytes⟩ := runBytes calls
        rw [bytes] at known
        have after : run (calls ++ [c]) = _ := (runSnoc calls c).trans
          (bytes ▸ (Call.mutationKept (leadsFilled led) known decided).2)
        rw [after] at held
        exact Option.some.inj (held.symm.trans (cells.cellPlant c.service.ns _))
    · obtain ⟨same, state⟩ := @runElsewhere calls ns c (Ne.symm here)
      rw [same] at held
      rw [state]
      exact ih held

end Course

theorem refusesNotStore {m : Mutation} {f : Fault} (refuses : m.Refuses f) : ¬ f.OfStore := by
  intro ofStore
  cases ofStore <;> cases refuses

theorem Call.verdictRefuses {c : Call} {st : State} {f : Fault}
    (refused : c.verdict st = .error (.fault f)) : c.asked.Refuses f := by
  unfold verdict at refused
  split at refused
  · exact judgeRefuses refused
  · rename_i outside
    cases refused
    exact .unsupported (by simpa using outside) _ _

theorem Call.answerLoaded {c : Call} {b : ByteStore} {st : State} {f : Fault} (filled : st.Filled)
    (known : b.stateAt c.service.ns = .ok st) (failed : c.answer (.bytes b) = .error (.fault f)) :
    c.asked.Refuses f := by
  rw [answerOutcome, outcomeVerdict filled known, answerTo] at failed
  split at failed
  · exact verdictRefuses (mapFails.mp failed)
  · rename_i l lost
    exact (l.noFault f (Except.error.inj failed)).elim

namespace Visit

variable {v : Visit} {b : ByteStore} {st : State} {f : Fault}

theorem loadedNotStore (filled : st.Filled) (known : b.stateAt v.service.ns = .ok st)
    (failed : v.answer (.bytes b) = .error (.fault f)) : ¬ f.OfStore := by
  obtain ⟨svc, h, validator, errand⟩ := v
  have raised {α : Type} {x : Action α} (g : α → Finding)
      (whole : ((do return g (← x) : Action Finding) ⟨.bytes b, validator, []⟩).1 = .error (.fault f)) :
      (x ⟨.bytes b, validator, []⟩).1 = .error (.fault f) := by
    rw [Action.returnRun] at whole
    exact mapFails.mp whole
  have silent {α : Type} {x : Action α} {a : α} {t : Site}
      (loaded : x ⟨.bytes b, validator, []⟩ = (.ok a, t))
      (own : (x ⟨.bytes b, validator, []⟩).1 = .error (.fault f)) : ¬ f.OfStore := by
    rw [loaded] at own
    cases own
  cases errand with
  | change asked =>
    have own : (Call.mk svc h validator asked).answer (.bytes b) = .error (.fault f) :=
      raised .reply failed
    exact refusesNotStore (Call.answerLoaded filled known own)
  | currentAdmin => exact silent (Service.currentAdminLoaded known) (raised .party failed)
  | proposedAdmin => exact silent (Service.proposedAdminLoaded known) (raised .party failed)
  | isAbolished => exact silent (Service.isAbolishedLoaded known) (raised .flag failed)
  | view => exact silent (Service.viewLoaded known) (raised .view failed)
  | isAdmin who => exact silent (Service.isAdminLoaded known who) (raised .flag failed)
  | isProposed who => exact silent (Service.isProposedLoaded known who) (raised .flag failed)
  | assertAdmin who =>
    have own := raised (fun _ => .nothing) failed
    rw [Service.assertAdminLoaded known who] at own
    split at own <;> cases own
    rintro ⟨⟩
  | assertProposed who =>
    have own := raised (fun _ => .nothing) failed
    rw [Service.assertProposedLoaded known who] at own
    split at own <;> cases own
    rintro ⟨⟩

end Visit

namespace Course

variable {b : Bounds} {calls : List Call}

theorem cellOfState {ns : String} {st : State} (known : (run calls).stateAt ns = .ok st)
    (begun : st ≠ .vacant) : ∃ raw, (run calls).bytes? ns = some raw := by
  obtain ⟨cells, bytes⟩ := runBytes calls
  rw [bytes] at known ⊢
  cases held : cells.cell? ns with
  | some raw => exact ⟨raw, held⟩
  | none =>
    simp only [Store.stateAt, Store.get, ByteStore.get, held] at known
    cases known
    exact (begun rfl).elim

theorem acceptedSuccessor (canonical : ∀ c ∈ calls, c.validator = .canonical b) {c : Call}
    {caller : Option Party} {next : State} (asked : c.asked = .update caller .acceptProposed)
    (kept : c.outcome (run calls) = .ok next) :
    ∃ i : Identity, caller = some (.identity i) ∧ next = .owned (some (.identity i)) ∧
      ((Validator.canonical b).validate (.string i.name)).1 = .ok i := by
  obtain ⟨st, known, led⟩ := reached calls c.service.ns
  rw [outcomeReached c known] at kept
  have moved := Call.verdictMoves (leadsFilled led) kept
  rw [asked] at moved
  cases moved with
  | accept admin successor =>
    -- nobody checks the successor now; the proposal that named them was checked when it was kept
    exact ⟨successor, rfl, rfl,
      Validator.acceptedAgain (placesAccepted canonical known (Or.inr rfl))⟩

/-- After a course of calls under one canonical validator every cell is the encoding of a record whose
places are held by words of that validator. No visit that follows fails over the store, and whoever
accepts then is a name that the validator accepts. -/
theorem canonicalStorage (b : Bounds) (calls : List Call)
    (canonical : ∀ c ∈ calls, c.validator = .canonical b) :
    (∀ ns raw, (run calls).bytes? ns = some raw →
      ∃ r : Record, r.Regular ∧ Wire.RecordForm.ofRecord r = .ok r.form ∧ raw = r.form.toBytes ∧
        ∀ p, r.admin = some p ∨ r.proposed = some p → b.Word p.name) ∧
    (∀ (v : Visit) (f : Fault), f.OfStore → v.answer (run calls) ≠ .error (.fault f)) ∧
    ∀ (c : Call) (caller : Option Party) (next : State), c.asked = .update caller .acceptProposed →
      c.outcome (run calls) = .ok next →
      ∃ i : Identity, caller = some (.identity i) ∧ next = .owned (some (.identity i)) ∧
        ((Validator.canonical b).validate (.string i.name)).1 = .ok i := by
  refine ⟨fun ns raw held => ?_, fun v f ofStore failed => ?_, fun c caller next asked kept =>
    acceptedSuccessor canonical asked kept⟩
  · obtain ⟨st, known, encoded⟩ := cellEncoded held
    obtain ⟨r, -, regular, form, admin, proposed⟩ := recordOfFilled (leadsFilled (leadsReached known))
    refine ⟨r, regular, Record.formOfRegular regular, form ▸ encoded, fun p placed => ?_⟩
    obtain ⟨i, rfl⟩ : ∃ i : Identity, p = .identity i :=
      placed.elim (regular.admin p) (regular.proposed p)
    rw [admin, proposed] at placed
    exact acceptedWord (placesAccepted canonical known placed)
  · obtain ⟨st, known, led⟩ := reached calls v.service.ns
    obtain ⟨cells, bytes⟩ := runBytes calls
    rw [bytes] at known failed
    exact Visit.loadedNotStore (leadsFilled led) known failed ofStore

def naming : Call :=
  Call.onConsole [] (.update (some (.named "peter")) (.proposeNewAdmin (.string "miles")))

def acceptance : Call := Call.onConsole [] (.update (some (.named "miles")) .acceptProposed)

theorem successorInWords :
    (∃ raw r, (run [crowning, naming]).bytes? "xyz" = some raw ∧ raw = (Record.form r).toBytes ∧
      ∀ p, r.admin = some p ∨ r.proposed = some p → Settings.trial.bounds.Word p.name) ∧
    acceptance.outcome (run [crowning, naming]) = .ok (.owned (some (.named "miles"))) ∧
    ((Validator.canonical Settings.trial.bounds).validate (.string "miles")).1 = .ok ⟨"miles"⟩ := by
  have canonical : ∀ c ∈ [crowning, naming], c.validator = .canonical Settings.trial.bounds := by
    simp [crowning, naming, Call.onConsole]
  obtain ⟨cells, -, accepts⟩ := canonicalStorage Settings.trial.bounds [crowning, naming] canonical
  have fresh : (run []).stateAt "xyz" = .ok .vacant := rfl
  have crowned := runTaken (c := crowning) fresh rfl
  have named := runTaken (c := naming) crowned.1 rfl
  have taken : acceptance.outcome (run [crowning, naming]) = .ok (.owned (some (.named "miles"))) :=
    (outcomeReached acceptance named.1).trans rfl
  refine ⟨?_, taken, ?_⟩
  · obtain ⟨raw, held⟩ := cellOfState named.1 (by decide)
    obtain ⟨r, -, -, encoded, words⟩ := cells "xyz" raw held
    exact ⟨raw, r, held, encoded, words⟩
  · obtain ⟨i, caller, -, accepted⟩ := accepts acceptance _ _ rfl taken
    cases caller
    exact accepted

end Course

end Handover

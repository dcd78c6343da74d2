import Handover.Proofs.Attribution
import Handover.Proofs.CanonicalStorage

/-!
What a host is told of an event. A missing party is rendered by a word that a party could bear, so the
attributes of two events can be the same. No party of a role bears it where every name was checked by a
canonical validator: over any run of visits to such services the attributes tell the parties apart.
-/
namespace Handover

namespace Event

/-- Whom attributes tell of under a name, the word for a missing party read as nobody. -/
def told? (name : String) (attributes : List (String × String)) : Option String :=
  (Table.get? name attributes).filter (· ≠ missing)

structure Unambiguous (e : Event) : Prop where
  admin : ("admin", missing) ∈ e.attributes ↔ e.admin = none
  proposed : ("proposed", missing) ∈ e.attributes ↔ e.proposed = none
  adminTold : told? "admin" e.attributes = e.admin
  proposedTold : told? "proposed" e.attributes = e.proposed
  senderTold : Table.get? "sender" e.attributes = some e.sender

section
variable {value : Option String}

theorem renderedMissing (borne : value ≠ some missing) : missing = value.getD missing ↔ value = none := by
  cases value with
  | none => simp
  | some name =>
    have other : missing ≠ name := fun same => borne (congrArg some same.symm)
    simp [other]

theorem renderedRead (borne : value ≠ some missing) :
    (some (value.getD missing)).filter (· ≠ missing) = value := by
  cases value with
  | none => rfl
  | some name =>
    have other : name ≠ missing := fun same => borne (congrArg some same)
    simp [Option.filter, other]

end

theorem unambiguous {e : Event} (admin : e.admin ≠ some missing) (proposed : e.proposed ≠ some missing) :
    e.Unambiguous where
  admin := by
    rw [← renderedMissing admin]
    simp [attributes]
  proposed := by
    rw [← renderedMissing proposed]
    simp [attributes]
  adminTold := renderedRead admin
  proposedTold := renderedRead proposed
  senderTold := rfl

theorem sameParties {e e' : Event} (own : e.Unambiguous) (own' : e'.Unambiguous)
    (same : e.attributes = e'.attributes) :
    e.admin = e'.admin ∧ e.proposed = e'.proposed ∧ e.sender = e'.sender := by
  refine ⟨?_, ?_, Option.some.inj ?_⟩
  · rw [← own.adminTold, same, own'.adminTold]
  · rw [← own.proposedTold, same, own'.proposedTold]
  · rw [← own.senderTold, same, own'.senderTold]

-- An admin who bears the word is not told from no admin.
example : (Event.mk "xyz" "ClearProposed" (some "None") none "None").attributes =
    (Event.mk "xyz" "ClearProposed" none none "None").attributes := rfl

end Event

theorem missingRefused (b : Bounds) : Identity.refusal? b Event.missing ≠ none := fun accepted =>
  absurd ((acceptedWord accepted).alphabet 'N' (by decide)) (by decide)

namespace Visit

def change? (v : Visit) : Option Call :=
  match v.errand with
  | .change asked => some (v.call asked)
  | _ => none

theorem runChanges (visits : List Visit) :
    run Course.start visits = Course.run (visits.filterMap change?) := by
  induction visits using List.reverseRecOn with
  | nil => rfl
  | append_singleton visits v ih =>
    have last : run Course.start (visits ++ [v]) = v.after (run Course.start visits) := by
      simp [run]
    obtain ⟨b, bytes⟩ := Course.runBytes (visits.filterMap change?)
    obtain ⟨st, known, -⟩ := Course.reached (visits.filterMap change?) v.service.ns
    rw [bytes] at known
    have loaded : b.stateAt v.service.ns = .ok st := known
    have visited : v.after (.bytes b) = .bytes (b.settle v.service.ns (v.upshot st).kept) :=
      congrArg (fun done => done.2.store) (performLoaded loaded)
    rw [last, ih, List.filterMap_append]
    obtain ⟨svc, h, validator, errand⟩ := v
    cases errand with
    | change asked =>
      exact (afterChange svc h validator asked _).trans (Course.runSnoc _ _).symm
    | _ =>
      rw [bytes, visited]
      exact bytes.symm.trans (congrArg Course.run (List.append_nil _).symm)

end Visit

/-- An event that a service answers with, after a run of visits on a store that was empty. All validators are
canonical, each within bounds of its own. -/
structure Issued (visits : List Visit) (e : Event) : Prop where
  canonical : ∀ v ∈ visits, ∃ b, v.validator = .canonical b
  updated : ∃ (svc : Service) (h : Host) (b : Bounds) (caller : Option Party) (r : Request)
    (log : List Audit.Line),
    (svc.update h caller r ⟨Visit.run Course.start visits, .canonical b, log⟩).1 = .ok e

section
variable {calls : List Call}

theorem missingNowhere (canonical : ∀ c ∈ calls, ∃ b, c.validator = .canonical b)
    {ns : String} {st : State}
    (known : (Course.run calls).stateAt ns = .ok st) {p : Party}
    (placed : st.admin = some p ∨ st.proposed = some p) : p.name ≠ Event.missing := by
  obtain ⟨i, rfl⟩ := State.placedOfFilled (leadsFilled (Course.leadsReached known)) placed
  have checked : ∀ c ∈ calls, Course.Checked (fun i => i.name ≠ Event.missing) c := by
    intro c inside st next i kept named same
    obtain ⟨b, own⟩ := canonical c inside
    have accepted : Identity.refusal? b i.name = none := Course.checkedCanonical own kept named
    rw [same] at accepted
    exact missingRefused b accepted
  exact Course.placesChecked checked known placed

theorem viewMissingNowhere (canonical : ∀ c ∈ calls, ∃ b, c.validator = .canonical b) {ns : String}
    {st : State} (known : (Course.run calls).stateAt ns = .ok st) :
    st.view.admin ≠ some Event.missing ∧ st.view.proposed ≠ some Event.missing := by
  constructor
  · intro shown
    obtain ⟨p, held, borne⟩ := Option.map_eq_some_iff.mp shown
    exact missingNowhere canonical known (Or.inl held) borne
  · intro shown
    obtain ⟨p, named, borne⟩ := Option.map_eq_some_iff.mp shown
    exact missingNowhere canonical known (Or.inr named) borne

theorem updateUnambiguous (canonical : ∀ c ∈ calls, ∃ b, c.validator = .canonical b) {svc : Service}
    {h : Host} {b : Bounds} {caller : Option Party} {r : Request} {log : List Audit.Line} {e : Event}
    (answered : (svc.update h caller r ⟨Course.run calls, .canonical b, log⟩).1 = .ok e) :
    e.Unambiguous := by
  let c : Call := ⟨svc, h, .canonical b, .update caller r⟩
  obtain ⟨t, updated⟩ := Service.answeredSite answered
  have done : c.perform ⟨Course.run calls, c.validator, log⟩ = (.ok (.event e), t) :=
    Service.updatePerformed updated
  obtain ⟨cells, bytes⟩ := Course.runBytes calls
  obtain ⟨st, known, -⟩ := Course.reached calls svc.ns
  have loaded : cells.stateAt c.service.ns = .ok st := by
    rw [bytes] at known
    exact known
  rw [bytes] at done
  obtain ⟨next, decided, replied, -⟩ := Call.verdictAnswered loaded done
  obtain rfl : e = Event.ofState svc.ns r next caller := Reply.event.inj replied
  have reached := (Course.runTaken (c := c) known decided).1
  have all : ∀ c' ∈ calls ++ [c], ∃ b, c'.validator = .canonical b := by
    intro c' member
    rcases List.mem_append.mp member with before | now
    · exact canonical c' before
    · exact ⟨b, by rw [List.mem_singleton.mp now]⟩
  obtain ⟨admin, proposed⟩ := viewMissingNowhere all reached
  exact Event.unambiguous admin proposed

end

section
variable {visits visits' : List Visit} {e e' : Event}

theorem changesCanonical (canonical : ∀ v ∈ visits, ∃ b, v.validator = .canonical b) :
    ∀ c ∈ visits.filterMap Visit.change?, ∃ b, c.validator = .canonical b := by
  intro c member
  obtain ⟨v, inside, changed⟩ := List.mem_filterMap.mp member
  obtain ⟨b, own⟩ := canonical v inside
  unfold Visit.change? at changed
  split at changed <;> cases changed
  exact ⟨b, own⟩

theorem issuedUnambiguous (issued : Issued visits e) : e.Unambiguous := by
  obtain ⟨svc, h, b, caller, r, log, answered⟩ := issued.updated
  rw [Visit.runChanges] at answered
  exact updateUnambiguous (changesCanonical issued.canonical) answered

/-- Over services with canonical validators nobody ever holds a role, or is named for it, by the word for a
missing party. So the attributes of an event that is issued use it only for who is missing, and events with
the same attributes have the same parties. -/
theorem attributesTell (issued : Issued visits e) (issued' : Issued visits' e') :
    (∀ ns st, (Visit.run Course.start visits).stateAt ns = .ok st →
      st.view.admin ≠ some Event.missing ∧ st.view.proposed ≠ some Event.missing) ∧
    e.Unambiguous ∧
    (e.attributes = e'.attributes →
      e.admin = e'.admin ∧ e.proposed = e'.proposed ∧ e.sender = e'.sender) := by
  have own := issuedUnambiguous issued
  refine ⟨fun ns st known => ?_, own, Event.sameParties own (issuedUnambiguous issued')⟩
  rw [Visit.runChanges] at known
  exact viewMissingNowhere (changesCanonical issued.canonical) known

end

def office (ns : String) : Service := ⟨ns, .ofService .captured Service.logName Audit.defaultComponent ns⟩

def opening (ns : String) : Visit where
  service := office ns
  host := Service.bystander
  validator := .canonical Settings.trial.bounds
  errand := .change (.establish (.setInitialAdmin (.string "peter")))

def proposal (ns : String) : Event := ⟨ns, "ProposeNewAdmin", some "peter", some "miles", "peter"⟩

theorem proposalsAlike :
    Issued [opening "abc"] (proposal "abc") ∧ Issued [opening "xyz"] (proposal "xyz") ∧
    (proposal "abc").Unambiguous ∧ (proposal "abc").admin = (proposal "xyz").admin := by
  have canonical (ns : String) : ∀ v ∈ [opening ns], ∃ b, v.validator = .canonical b := by
    simp [opening]
  have answered : ∀ ns ∈ ["abc", "xyz"], ((office ns).update Service.bystander (some (.named "peter"))
      (.proposeNewAdmin (.string "miles")) ⟨Visit.run Course.start [opening ns],
        .canonical Settings.trial.bounds, []⟩).1 = .ok (proposal ns) := by decide +kernel
  have issued (ns : String) (inside : ns ∈ ["abc", "xyz"]) : Issued [opening ns] (proposal ns) :=
    ⟨canonical ns, _, _, _, _, _, _, answered ns inside⟩
  have here := issued "abc" (by simp)
  have there := issued "xyz" (by simp)
  obtain ⟨-, own, alike⟩ := attributesTell here there
  exact ⟨here, there, own, (alike rfl).1⟩

end Handover

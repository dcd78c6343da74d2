import Handover.Proofs.Call

/-!
What a call can be refused with. Guard and validator know six kinds of fault, of which one is for requests
outside the family of the entry point; the store has two of its own. A call fails with no other fault.
-/
namespace Handover

inductive Fault.OfStore : Fault → Prop
  | storage (ns : String) (trouble : Trouble) : OfStore (.storage ns trouble)
  | record (flaw : Flaw) : OfStore (.record flaw)

inductive Mutation.Refuses (m : Mutation) : Fault → Prop
  | abolished : Refuses m .abolished
  | alreadySet : Refuses m .alreadySet
  | notAdmin : Refuses m .notAdmin
  | notProposed : Refuses m .notProposed
  | identity (raw : Json) (why : Refusal) : Refuses m (.identity raw why)
  | unsupported (outside : m.supported = false) (operation kind : String) :
    Refuses m (.unsupported operation kind)

theorem mapFails {ε α β : Type} {x : Except ε α} {g : α → β} {e : ε} :
    x.map g = .error e ↔ x = .error e := by
  cases x <;> simp [Except.map]

theorem canonicalFaults {b : Bounds} {raw : Json} {f : Fault}
    (refused : Identity.canonical b raw = .error f) : ∃ shown why, f = .identity shown why := by
  unfold Identity.canonical at refused
  split at refused
  · split at refused <;> cases refused
    exact ⟨_, _, rfl⟩
  · cases refused
    exact ⟨_, _, rfl⟩

theorem listedFaults {listed : List Json} {raw : Json} {f : Fault}
    (refused : Validator.checkListed listed raw = .error (.fault f)) :
    ∃ shown why, f = .identity shown why := by
  unfold Validator.checkListed at refused
  split at refused
  · cases refused
    exact ⟨_, _, rfl⟩
  split at refused
  · cases refused
  split at refused
  · exact ⟨_, _, (Fault.failureOwn (Except.error.inj refused)).symm⟩
  · cases named : Identity.ofJson raw <;> rw [named] at refused <;> cases refused

theorem validateFaults {v : Validator} {raw : Json} {f : Fault}
    (refused : (v.validate raw).1 = .error (.fault f)) : ∃ shown why, f = .identity shown why := by
  cases v with
  | canonical b =>
    simp only [Validator.validate, Identity.canonical?] at refused
    split at refused
    · cases checked : Identity.canonical b raw with
      | ok i => rw [checked] at refused; cases refused
      | error f' =>
        rw [checked] at refused
        rw [← Fault.failureOwn (Except.error.inj refused)]
        exact canonicalFaults checked
    · cases refused
  | listed listed seen => exact listedFaults refused

section
variable {m : Mutation} {v : Validator} {s : State} {f : Fault}

theorem planRefuses {plan : Plan} (refused : (plan.carryOut v).1 = .error (.fault f)) :
    m.Refuses f := by
  cases plan with
  | settle next => cases refused
  | validate raw next =>
    obtain ⟨shown, why, rfl⟩ := validateFaults (mapFails.mp refused)
    exact .identity shown why

theorem startRefuses {r : Request} (refused : (s.start v r).1 = .error (.fault f)) :
    Mutation.Refuses (.establish r) f := by
  unfold State.start State.planStart at refused
  split at refused
  · cases refused; exact .abolished
  split at refused
  · cases refused; exact .alreadySet
  · cases r <;> exact planRefuses refused

theorem adminRefuses {caller : Option Party} {plan : Option Party → Plan}
    (refused : (carryOut v ((s.requireAdmin caller).map plan)).1 = .error (.fault f)) :
    m.Refuses f := by
  unfold State.requireAdmin at refused
  split at refused
  · cases refused; exact .notAdmin
  · exact planRefuses refused

theorem changeRefuses {caller : Option Party} {r : Request}
    (refused : (s.change v caller r).1 = .error (.fault f)) :
    Mutation.Refuses (.update caller r) f := by
  unfold State.change State.planChange at refused
  split at refused
  · cases refused; exact .abolished
  cases r with
  | proposeNewAdmin raw => exact adminRefuses refused
  | clearProposed => exact adminRefuses refused
  | abolishAdminRole => exact adminRefuses refused
  | acceptProposed =>
    simp only at refused
    split at refused
    · cases refused; exact .notProposed
    · cases refused
  | setInitialAdmin raw => cases refused; exact .unsupported rfl _ _
  | other value => cases refused; exact .unsupported rfl _ _

theorem judgeRefuses (refused : (m.judge v s).1 = .error (.fault f)) : m.Refuses f := by
  cases m with
  | establish r => exact startRefuses refused
  | update caller r => exact changeRefuses refused

end

namespace Action

variable {α β : Type} {P : Fault → Prop}

def Raises (P : Fault → Prop) (x : Action α) : Prop :=
  ∀ s f, (x s).1 = .error (.fault f) → P f

theorem raisesPure (a : α) : Raises P (pure a : Action α) := by
  intro s f raised
  cases raised

theorem raisesNote (lines : Except Audit.Loss (List Audit.Line)) : Raises P (note lines) := by
  intro s f raised
  cases lines with
  | ok lines => cases raised
  | error l => exact (l.noFault f (Except.error.inj raised)).elim

theorem raisesFail {f : Fault} (fits : P f) : Raises P (fail (.fault f) : Action α) := by
  intro s f raised
  cases raised
  exact fits

theorem raisesDecide {d : Validator → Except Failure State × Validator}
    (judged : ∀ v f, (d v).1 = .error (.fault f) → P f) : Raises P (decide d) :=
  fun s f raised => judged s.validator f raised

theorem raisesBind {x : Action α} {f : α → Action β} (first : Raises P x)
    (next : ∀ a, Raises P (f a)) : Raises P (x >>= f) := by
  intro s fault raised
  cases done : x s with
  | mk result t =>
    cases result with
    | ok a =>
      rw [bindOk f done] at raised
      exact next a t fault raised
    | error e =>
      rw [bindError f done] at raised
      cases raised
      exact first s fault (by rw [done])

theorem raisesTransact {ns : String} {x : Action α} (inside : Raises P x) :
    Raises P (transact ns x) := by
  intro s f raised
  unfold transact at raised
  split at raised
  · cases raised
  · rename_i e t done
    exact inside _ f (by rw [done]; exact raised)

end Action

theorem damageKinds {b : ByteStore} {ns : String} {f : Fault} (damaged : b.get ns = .error f) :
    (∃ issues, f = .storage ns (.corrupt issues)) ∨ ∃ flaw, f = .record flaw := by
  unfold ByteStore.get at damaged
  split at damaged
  · cases damaged
  · unfold ByteStore.decode at damaged
    split at damaged
    · cases damaged
      exact Or.inl ⟨_, rfl⟩
    · rename_i form read
      cases made : form.toRecord with
      | ok r => rw [made] at damaged; cases damaged
      | error flaw => rw [made] at damaged; cases damaged; exact Or.inr ⟨flaw, rfl⟩

theorem getRaises {s : Store} {ns : String} {f : Fault} (failed : (s.get ns).1 = .error f) :
    f.OfStore := by
  cases s with
  | bytes b =>
    rcases damageKinds failed with ⟨issues, rfl⟩ | ⟨flaw, rfl⟩
    · exact .storage _ _
    · exact .record _
  | plain p =>
    simp only [Store.get, PlainStore.get] at failed
    split at failed <;> cases failed
    exact .storage _ _

theorem setRaises {s : Store} {ns : String} {r : Record} {f : Fault}
    (failed : s.set ns r = .error (.fault f)) : f.OfStore := by
  cases s with
  | bytes b =>
    simp only [Store.set, ByteStore.set] at failed
    split at failed <;> cases failed
  | plain p =>
    simp only [Store.set, PlainStore.set] at failed
    split at failed <;> cases failed
    exact .storage _ _

theorem loadRaises (h : Host) (ns : String) : (h.load ns).Raises Fault.OfStore := by
  intro s f raised
  unfold Host.load at raised
  cases found : s.store.get ns with
  | mk result store =>
    rw [found] at raised
    cases result with
    | ok r => cases raised
    | error f' =>
      have own : f'.OfStore := getRaises (congrArg Prod.fst found)
      exact Action.raisesBind (Action.raisesNote _) (fun _ => Action.raisesFail own) _ f raised

theorem keepRaises (next : State) (ns : String) : (next.keep ns).Raises Fault.OfStore := by
  intro s f raised
  unfold State.keep at raised
  split at raised
  · cases raised; exact .record _
  split at raised
  · rename_i failed
    cases raised
    exact setRaises failed
  · cases raised

theorem raisesWider {α : Type} {P Q : Fault → Prop} {x : Action α} (raises : x.Raises P)
    (wider : ∀ f, P f → Q f) : x.Raises Q :=
  fun s f raised => wider f (raises s f raised)

namespace Call

variable {c : Call} {s : Store} {f : Fault}

theorem mutationRaises (c : Call) :
    c.mutation.Raises fun f => c.asked.Refuses f ∨ f.OfStore := by
  unfold mutation
  split
  · refine Action.raisesTransact (Action.raisesBind ?_ fun st => ?_)
    · refine raisesWider ?_ fun _ => Or.inr
      exact Action.raisesBind (loadRaises _ _) fun _ => Action.raisesPure _
    refine Action.raisesBind ?_ fun next => ?_
    · exact Action.raisesDecide fun v f refused => Or.inl (judgeRefuses refused)
    refine Action.raisesBind ?_ fun _ => Action.raisesPure _
    exact raisesWider (keepRaises next _) fun _ => Or.inr
  · rename_i outside
    have outside : c.asked.supported = false := by simpa using outside
    exact Action.raisesFail (Or.inl (.unsupported outside _ _))

theorem answerRaises (failed : c.answer s = .error (.fault f)) : c.asked.Refuses f ∨ f.OfStore := by
  rw [answerOutcome, answerTo] at failed
  split at failed
  · exact c.mutationRaises (c.site s) f (mapFails.mp failed)
  · rename_i l lost
    exact (l.noFault f (Except.error.inj failed)).elim

theorem neverUnsupported (inside : c.asked.supported = true) (s : Store) (operation kind : String) :
    c.answer s ≠ .error (.fault (.unsupported operation kind)) := by
  intro failed
  rcases answerRaises failed with refused | ofStore
  · cases refused with
    | unsupported outside => rw [inside] at outside; cases outside
  · cases ofStore

end Call

end Handover

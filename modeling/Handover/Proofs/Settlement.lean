import Handover.Proofs.Atomicity
import Handover.Proofs.Moves

/-!
Calls on a store of bytes. Where the state of the namespace is known and filled, the outcome is the
verdict of guard and validator on that state, and the store afterwards holds the bytes of the next
state or is the same store.
-/
namespace Handover

def Store.stateAt (s : Store) (ns : String) : Except Fault State :=
  (s.get ns).1.map State.ofRecord

def ByteStore.settle (b : ByteStore) (ns : String) : Option State → ByteStore
  | none => b
  | some next => b.plant ns next.form.toBytes

theorem Action.requireRun {x : Action Bool} {p : Prop} [held : Decidable p] {e : Failure} {s t : Site}
    (asked : x s = (.ok held.decide, t)) :
    (do if ← x then return () else .fail e : Action Unit) s = (if p then .ok () else .error e, t) := by
  rw [Action.bindOk _ asked]
  by_cases own : p
  · rw [if_pos (decide_eq_true own), if_pos own]
    rfl
  · rw [if_neg (by simpa using own), if_neg own]
    rfl

namespace Service

variable {svc : Service} {h : Host} {b : ByteStore} {st : State} {v : Validator}
  {log : List Audit.Line}

theorem stateLoaded (known : b.stateAt svc.ns = .ok st) :
    svc.state h ⟨.bytes b, v, log⟩ = (.ok st, ⟨.bytes b, v, log⟩) := by
  unfold ByteStore.stateAt at known
  cases found : b.get svc.ns with
  | error f => rw [found] at known; cases known
  | ok r =>
    rw [found] at known
    cases known
    have loaded : h.load svc.ns ⟨.bytes b, v, log⟩ = (.ok r, ⟨.bytes b, v, log⟩) := by
      simp only [Host.load, Store.get, found]
    exact Action.bindOk _ loaded

theorem currentAdminLoaded (known : b.stateAt svc.ns = .ok st) :
    svc.currentAdmin h ⟨.bytes b, v, log⟩ = (.ok st.admin, ⟨.bytes b, v, log⟩) :=
  Action.bindOk _ (stateLoaded known)

theorem proposedAdminLoaded (known : b.stateAt svc.ns = .ok st) :
    svc.proposedAdmin h ⟨.bytes b, v, log⟩ = (.ok st.proposed, ⟨.bytes b, v, log⟩) :=
  Action.bindOk _ (stateLoaded known)

theorem isAbolishedLoaded (known : b.stateAt svc.ns = .ok st) :
    svc.isAbolished h ⟨.bytes b, v, log⟩ = (.ok st.isAbolished, ⟨.bytes b, v, log⟩) :=
  Action.bindOk _ (stateLoaded known)

theorem viewLoaded (known : b.stateAt svc.ns = .ok st) :
    svc.view h ⟨.bytes b, v, log⟩ = (.ok st.view, ⟨.bytes b, v, log⟩) :=
  Action.bindOk _ (stateLoaded known)

theorem mutateKept {d : Validator → State → Except Failure State × Validator} {next : State}
    {r : Record} (known : b.stateAt svc.ns = .ok st) (judged : (d v st).1 = .ok next)
    (flat : next.toRecord = .ok r) :
    svc.mutate h d ⟨.bytes b, v, log⟩ =
      (.ok next, ⟨.bytes (b.plant svc.ns next.form.toBytes), (d v st).2, log⟩) := by
  have decided : Action.decide (fun v => d v st) ⟨.bytes b, v, log⟩ =
      (.ok next, ⟨.bytes b, (d v st).2, log⟩) := by
    rw [Action.decide, judged]
  have kept : next.keep svc.ns ⟨.bytes b, (d v st).2, log⟩ =
      (.ok (), ⟨.bytes (b.plant svc.ns next.form.toBytes), (d v st).2, log⟩) := by
    simp only [State.keep, flat, Store.set, ByteStore.setState b svc.ns flat, Except.map]
  rw [mutate, Action.transact, Store.enter, Action.bindOk _ (stateLoaded known),
    Action.bindOk _ decided, Action.bindOk _ kept]
  rfl

theorem mutateRefused {d : Validator → State → Except Failure State × Validator} {e : Failure}
    (known : b.stateAt svc.ns = .ok st) (judged : (d v st).1 = .error e) :
    svc.mutate h d ⟨.bytes b, v, log⟩ = (.error e, ⟨.bytes b, (d v st).2, log⟩) := by
  have decided : Action.decide (fun v => d v st) ⟨.bytes b, v, log⟩ =
      (.error e, ⟨.bytes b, (d v st).2, log⟩) := by
    rw [Action.decide, judged]
  rw [mutate, Action.transact, Store.enter, Action.bindOk _ (stateLoaded known),
    Action.bindError _ decided]
  simp only [Store.rollback, ByteStore.cell?, Table.assignGet]

section
variable (known : b.stateAt svc.ns = .ok st) (who : Option Party)
include known

theorem isAdminLoaded :
    svc.isAdmin h who ⟨.bytes b, v, log⟩ =
      (.ok (st.admin ≠ none ∧ st.admin = who), ⟨.bytes b, v, log⟩) :=
  Action.bindOk _ (currentAdminLoaded known)

theorem isProposedLoaded :
    svc.isProposed h who ⟨.bytes b, v, log⟩ =
      (.ok (st.proposed ≠ none ∧ st.proposed = who), ⟨.bytes b, v, log⟩) :=
  Action.bindOk _ (proposedAdminLoaded known)

theorem assertAdminLoaded :
    svc.assertAdmin h who ⟨.bytes b, v, log⟩ =
      (if st.admin ≠ none ∧ st.admin = who then .ok () else .error (.fault .notAdmin),
        ⟨.bytes b, v, log⟩) :=
  Action.requireRun (isAdminLoaded known who)

theorem assertProposedLoaded :
    svc.assertProposed h who ⟨.bytes b, v, log⟩ =
      (if st.proposed ≠ none ∧ st.proposed = who then .ok () else .error (.fault .notProposed),
        ⟨.bytes b, v, log⟩) :=
  Action.requireRun (isProposedLoaded known who)

end

end Service

namespace Call

variable {c : Call} {b : ByteStore} {st next : State}

def verdict (c : Call) (st : State) : Except Failure State :=
  if c.asked.supported then (c.asked.judge c.validator st).1 else .error c.unsupported

theorem verdictMoves (filled : st.Filled) (kept : c.verdict st = .ok next) :
    Moves st c.asked next := by
  unfold verdict at kept
  split at kept
  · rename_i inside
    exact judgeMoves filled inside kept
  · cases kept

def learned (c : Call) (st : State) : Validator :=
  if c.asked.supported then (c.asked.judge c.validator st).2 else c.validator

theorem mutationLoaded {log : List Audit.Line} (filled : st.Filled)
    (known : b.stateAt c.service.ns = .ok st) :
    c.mutation ⟨.bytes b, c.validator, log⟩ =
      (c.verdict st,
        ⟨.bytes (b.settle c.service.ns (c.verdict st).toOption), c.learned st, log⟩) := by
  by_cases inside : c.asked.supported = true
  · rw [mutation, if_pos inside, learned, if_pos inside]
    cases decided : c.verdict st with
    | ok next =>
      obtain ⟨r, flat⟩ := filledToRecord (movesFilled (verdictMoves filled decided))
      rw [verdict, if_pos inside] at decided
      exact Service.mutateKept known decided flat
    | error e =>
      rw [verdict, if_pos inside] at decided
      exact Service.mutateRefused known decided
  · have outside : c.asked.supported = false := by simpa using inside
    rw [mutationUnsupported _ outside, verdict, learned, if_neg inside, if_neg inside]
    rfl

theorem mutationKept (filled : st.Filled) (known : b.stateAt c.service.ns = .ok st)
    (kept : c.verdict st = .ok next) :
    c.outcome (.bytes b) = .ok next ∧
      c.after (.bytes b) = .bytes (b.plant c.service.ns next.form.toBytes) := by
  rw [outcome, afterMutation, site, mutationLoaded filled known, kept]
  exact ⟨rfl, rfl⟩

theorem outcomeVerdict (filled : st.Filled) (known : b.stateAt c.service.ns = .ok st) :
    c.outcome (.bytes b) = c.verdict st := by
  rw [outcome, site, mutationLoaded filled known]

theorem refusedKeepsBytes {e : Failure} (refused : c.outcome (.bytes b) = .error e) :
    c.after (.bytes b) = .bytes b := by
  have same := refusedKeepsContent refused
  cases after : c.after (.bytes b) with
  | bytes t => rw [after] at same; exact same
  | plain p => rw [after] at same; cases same

theorem settles (filled : st.Filled) (known : b.stateAt c.service.ns = .ok st) :
    (∃ e, c.outcome (.bytes b) = .error e ∧ c.after (.bytes b) = .bytes b) ∨
    ∃ next t, Moves st c.asked next ∧ c.outcome (.bytes b) = .ok next ∧
      c.after (.bytes b) = .bytes t ∧ t.stateAt c.service.ns = .ok next ∧
      ∀ other, other ≠ c.service.ns → t.cell? other = b.cell? other := by
  cases decided : c.verdict st with
  | error e =>
    have refused := (outcomeVerdict filled known).trans decided
    exact Or.inl ⟨e, refused, refusedKeepsBytes refused⟩
  | ok next =>
    obtain ⟨kept, stored⟩ := mutationKept filled known decided
    have moved := verdictMoves filled decided
    have read := b.stateAtPlant c.service.ns (movesFilled moved)
    refine Or.inr ⟨next, _, moved, kept, stored, read, ?_⟩
    intro other apart
    exact b.cellPlantOther _ apart

end Call

end Handover

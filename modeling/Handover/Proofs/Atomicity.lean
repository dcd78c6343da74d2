import Handover.Proofs.Call

/-!
What a failure leaves of a store. A service reads until it keeps its record, and keeping is the last
thing that a transaction does. So a call that fails leaves every namespace as it was, with one
exception: the entry of a kept mutation is noted after the transaction, and a log that cannot take it
fails a call whose record stays.
-/
namespace Handover

namespace Store

def content : Store → Store
  | .bytes s => .bytes s
  | .plain s => .plain { s with gets := 0, opened := 0 }

theorem contentEnter (s : Store) : s.enter.content = s.content := by
  cases s <;> rfl

theorem contentGet (s : Store) (ns : String) : (s.get ns).2.content = s.content := by
  cases s <;> rfl

theorem contentRollback {now before : Store} (ns : String) (same : now.content = before.content) :
    (now.rollback before ns).content = before.content := by
  cases now with
  | bytes n =>
    cases before with
    | plain b => cases same
    | bytes b =>
      cases same
      -- an entry is put back and an absent one erased: the same look-up decides both
      rw [rollback, ByteStore.cell?, Table.assignGet]
  | plain n =>
    cases before with
    | bytes b => cases same
    | plain b =>
      simp only [content, plain.injEq, PlainStore.mk.injEq] at same
      obtain ⟨cells, failsGet, failsSet, -, sets, -⟩ := same
      simp only [rollback, content, PlainStore.cell?, cells, failsGet, failsSet, sets,
        Table.assignGet]

end Store

namespace Action

variable {α β : Type}

def Reads (x : Action α) : Prop := ∀ s, (x s).2.store.content = s.store.content

def Recoils (x : Action α) : Prop :=
  ∀ s e, (x s).1 = .error e → (x s).2.store.content = s.store.content

theorem readsPure (a : α) : Reads (pure a) := fun _ => rfl

theorem readsFail (e : Failure) : Reads (fail e : Action α) := fun _ => rfl

theorem readsNote (lines : Except Audit.Loss (List Audit.Line)) : Reads (note lines) := by
  intro s
  cases lines <;> rfl

theorem readsDecide (d : Validator → Except Failure State × Validator) : Reads (decide d) :=
  fun _ => rfl

theorem readsBind {x : Action α} {f : α → Action β} (first : Reads x) (next : ∀ a, Reads (f a)) :
    Reads (x >>= f) := by
  intro s
  have kept := first s
  cases done : x s with
  | mk result t =>
    rw [done] at kept
    cases result with
    | ok a =>
      rw [bindOk f done]
      exact (next a t).trans kept
    | error e =>
      rw [bindError f done]
      exact kept

theorem readsFailNoting (f : Fault) (lines : Except Audit.Loss (List Audit.Line)) :
    Reads (failNoting f lines : Action α) :=
  readsBind (readsNote lines) fun _ => readsFail _

theorem recoilsOfReads {x : Action α} (only : Reads x) : Recoils x := fun s _ _ => only s

theorem recoilsBind {x : Action α} {f : α → Action β} (first : Reads x) (next : ∀ a, Recoils (f a)) :
    Recoils (x >>= f) := by
  intro s e failed
  have kept := first s
  cases done : x s with
  | mk result t =>
    rw [done] at kept
    cases result with
    | ok a =>
      rw [bindOk f done] at failed ⊢
      exact (next a t e failed).trans kept
    | error e' =>
      rw [bindError f done]
      exact kept

theorem recoilsAnswer {x : Action α} (g : α → β) (only : Recoils x) :
    Recoils (do return g (← x)) := by
  intro s e failed
  cases done : x s with
  | mk result t =>
    cases result with
    | ok a => rw [bindOk _ done] at failed; cases failed
    | error e' =>
      have kept := only s e' (by rw [done])
      rw [bindError _ done]
      rw [done] at kept
      exact kept

theorem recoilsTransact {x : Action α} (ns : String) (only : Recoils x) :
    Recoils (transact ns x) := by
  intro s e failed
  have inside := only { s with store := s.store.enter }
  unfold transact at failed ⊢
  cases done : x { s with store := s.store.enter } with
  | mk result t =>
    rw [done] at failed inside
    cases result with
    | ok a => cases failed
    | error e' =>
      have kept := inside e' rfl
      exact Store.contentRollback ns (kept.trans (Store.contentEnter s.store))

end Action

theorem loadReads (h : Host) (ns : String) : (h.load ns).Reads := by
  intro s
  have kept := Store.contentGet s.store ns
  unfold Host.load
  cases found : s.store.get ns with
  | mk result store =>
    rw [found] at kept
    cases result with
    | ok r => exact kept
    | error f => exact (Action.readsFailNoting f _ _).trans kept

theorem keepRecoils (next : State) (ns : String) : (next.keep ns).Recoils := by
  intro s e failed
  unfold State.keep at failed ⊢
  split
  · rfl
  · split
    · rfl
    · simp_all

namespace Service

variable (svc : Service) (h : Host) (who : Option Party)

theorem stateReads : (svc.state h).Reads :=
  Action.readsBind (loadReads h svc.ns) fun _ => Action.readsPure _

theorem currentAdminReads : (svc.currentAdmin h).Reads :=
  Action.readsBind (svc.stateReads h) fun _ => Action.readsPure _

theorem proposedAdminReads : (svc.proposedAdmin h).Reads :=
  Action.readsBind (svc.stateReads h) fun _ => Action.readsPure _

theorem isAbolishedReads : (svc.isAbolished h).Reads :=
  Action.readsBind (svc.stateReads h) fun _ => Action.readsPure _

theorem viewReads : (svc.view h).Reads :=
  Action.readsBind (svc.stateReads h) fun _ => Action.readsPure _

theorem isAdminReads : (svc.isAdmin h who).Reads :=
  Action.readsBind (svc.currentAdminReads h) fun _ => Action.readsPure _

theorem isProposedReads : (svc.isProposed h who).Reads :=
  Action.readsBind (svc.proposedAdminReads h) fun _ => Action.readsPure _

theorem assertAdminReads : (svc.assertAdmin h who).Reads := by
  refine Action.readsBind (svc.isAdminReads h who) fun answer => ?_
  split
  · exact Action.readsPure _
  · exact Action.readsFail _

theorem assertProposedReads : (svc.assertProposed h who).Reads := by
  refine Action.readsBind (svc.isProposedReads h who) fun answer => ?_
  split
  · exact Action.readsPure _
  · exact Action.readsFail _

theorem surveyReads : (svc.survey h).Reads := by
  refine Action.readsBind (svc.currentAdminReads h) fun _ => ?_
  refine Action.readsBind (svc.proposedAdminReads h) fun _ => ?_
  refine Action.readsBind (svc.isAbolishedReads h) fun _ => ?_
  refine Action.readsBind (svc.viewReads h) fun _ => ?_
  exact Action.readsBind (svc.viewReads h) fun _ => Action.readsPure _

theorem mutateRecoils (d : Validator → State → Except Failure State × Validator) :
    (svc.mutate h d).Recoils := by
  unfold mutate
  refine Action.recoilsTransact svc.ns ?_
  refine Action.recoilsBind (svc.stateReads h) fun s => ?_
  refine Action.recoilsBind (Action.readsDecide _) fun next => ?_
  exact Action.recoilsAnswer (fun _ => next) (keepRecoils next svc.ns)

end Service

namespace Call

theorem mutationRecoils (c : Call) : c.mutation.Recoils := by
  unfold mutation
  split
  · exact c.service.mutateRecoils c.host c.asked.judge
  · exact Action.recoilsOfReads (Action.readsFail _)

theorem refusedKeepsContent {c : Call} {s : Store} {e : Failure} (refused : c.outcome s = .error e) :
    (c.after s).content = s.content := by
  rw [afterMutation]
  exact c.mutationRecoils (c.site s) e refused

def corrupt : Store := .bytes ⟨[("xyz", "\x7b".toUTF8)]⟩

end Call

end Handover

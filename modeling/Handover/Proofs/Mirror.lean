import Handover.Proofs.Damage
import Handover.Proofs.KeptRecord
import Handover.Proofs.Moves

/-!
Stores side by side. A store of bytes mirrors a store of records if both hold the same records, all of
them regular. What a service does on two mirrored stores comes to the same answer, and leaves stores that
are mirrored again.
-/
namespace Handover

namespace Store

inductive Mirrors : Store → Store → Prop
  | alike {b : ByteStore} {p : PlainStore} (reads : p.failsGet = false) (writes : p.failsSet = false)
    (held : ∀ ns, b.get ns = .ok (p.cell? ns))
    (regular : ∀ ns r, p.cell? ns = some r → r.Regular) : Mirrors (.bytes b) (.plain p)

variable {s t now before : Store} {ns : String} {r : Record}

theorem mirrorsEmpty : Mirrors (.bytes .empty) (.plain .empty) :=
  .alike rfl rfl (fun _ => rfl) fun _ _ held => by cases held

theorem mirrorsEnter (mirrors : s.Mirrors t) : s.enter.Mirrors t.enter := by
  cases mirrors with
  | alike reads writes held regular => exact .alike reads writes held regular

theorem mirrorsGet (mirrors : s.Mirrors t) (ns : String) :
    (s.get ns).1 = (t.get ns).1 ∧ (s.get ns).2.Mirrors (t.get ns).2 ∧
      ∀ found, (s.get ns).1 = .ok found → ∀ r, found = some r → r.Regular := by
  cases mirrors with
  | @alike b p reads writes held regular =>
    refine ⟨?_, .alike reads writes held regular, ?_⟩
    · simp only [get, PlainStore.get, reads, Bool.false_eq_true, if_false]
      exact held ns
    · intro found read r same
      obtain rfl : found = p.cell? ns := Except.ok.inj (read.symm.trans (held ns))
      exact regular ns r same

theorem mirrorsSet (mirrors : s.Mirrors t) (ns : String) (regular : r.Regular) :
    ∃ s' t', s.set ns r = .ok s' ∧ t.set ns r = .ok t' ∧ s'.Mirrors t' := by
  cases mirrors with
  | @alike b p reads writes held others =>
    refine ⟨.bytes (b.plant ns r.form.toBytes), .plain { p.seed ns r with sets := p.sets + 1 },
      ?_, ?_, ?_⟩
    · rw [set, b.setRegular ns regular]
      rfl
    · simp only [set, PlainStore.set, writes, Bool.false_eq_true, if_false]
      rfl
    · refine .alike reads writes (fun ns' => ?_) fun ns' r' stored => ?_
      · by_cases own : ns' = ns
        · subst own
          rw [b.getPlanted ns' regular]
          exact congrArg Except.ok (Table.getPutSelf ns' r p.cells).symm
        · rw [ByteStore.getCells (b.cellPlantOther _ own), held]
          exact congrArg Except.ok (Table.getPutOther r p.cells own).symm
      · by_cases own : ns' = ns
        · subst own
          cases (Table.getPutSelf ns' r p.cells).symm.trans stored
          exact regular
        · exact others ns' r' ((Table.getPutOther r p.cells own).symm.trans stored)

theorem mirrorsRollback {now' before' : Store} (ns : String) (mirrors : now.Mirrors now')
    (back : before.Mirrors before') : (now.rollback before ns).Mirrors (now'.rollback before' ns) := by
  cases mirrors with
  | @alike n m reads writes held regular =>
    cases back with
    | @alike b p _ _ held' regular' =>
      refine .alike reads writes (fun ns' => ?_) fun ns' r stored => ?_
      · by_cases own : ns' = ns
        · subst own
          have bytes : (ByteStore.mk (Table.assign ns' (b.cell? ns') n.cells)).cell? ns' = b.cell? ns' :=
            Table.getAssignSelf _ _ _
          rw [ByteStore.getCells bytes, held']
          exact congrArg Except.ok (Table.getAssignSelf ns' _ m.cells).symm
        · have bytes : (ByteStore.mk (Table.assign ns (b.cell? ns) n.cells)).cell? ns' = n.cell? ns' :=
            Table.getAssignOther _ _ own
          rw [ByteStore.getCells bytes, held]
          exact congrArg Except.ok (Table.getAssignOther _ m.cells own).symm
      · by_cases own : ns' = ns
        · subst own
          exact regular' ns' r ((Table.getAssignSelf ns' _ m.cells).symm.trans stored)
        · exact regular ns' r ((Table.getAssignOther _ m.cells own).symm.trans stored)

end Store

structure Site.Mirrors (s t : Site) : Prop where
  store : s.store.Mirrors t.store
  validator : s.validator = t.validator
  log : s.log = t.log

namespace Action

variable {α β : Type} {P : α → Prop} {Q : β → Prop}

def Parallel (P : α → Prop) (x : Action α) : Prop :=
  ∀ s t : Site, s.Mirrors t →
    (x s).1 = (x t).1 ∧ (x s).2.Mirrors (x t).2 ∧ ∀ a, (x s).1 = .ok a → P a

theorem parallelPure {a : α} (fits : P a) : Parallel P (pure a : Action α) :=
  fun _ _ mirrors => ⟨rfl, mirrors, fun _ same => Except.ok.inj same ▸ fits⟩

theorem parallelFail (e : Failure) : Parallel P (fail e : Action α) :=
  fun _ _ mirrors => ⟨rfl, mirrors, fun _ same => by cases same⟩

theorem parallelNote (lines : Except Audit.Loss (List Audit.Line)) :
    Parallel (fun _ => True) (note lines) := by
  intro s t mirrors
  cases lines with
  | error m => exact ⟨rfl, mirrors, fun _ _ => trivial⟩
  | ok lines =>
    have log : s.log ++ lines = t.log ++ lines := by rw [mirrors.log]
    exact ⟨rfl, ⟨mirrors.store, mirrors.validator, log⟩, fun _ _ => trivial⟩

theorem parallelDecide {d : Validator → Except Failure State × Validator} {P : State → Prop}
    (judged : ∀ v next, (d v).1 = .ok next → P next) : Parallel P (decide d) := by
  intro s t mirrors
  have same : d s.validator = d t.validator := by rw [mirrors.validator]
  refine ⟨?_, ⟨mirrors.store, ?_, mirrors.log⟩, fun next kept => judged _ next kept⟩
  · simp only [decide, same]
  · simp only [decide, same]

theorem parallelBind {x : Action α} {f : α → Action β} (first : Parallel P x)
    (next : ∀ a, P a → Parallel Q (f a)) : Parallel Q (x >>= f) := by
  intro s t mirrors
  obtain ⟨same, after, fits⟩ := first s t mirrors
  cases done : x s with
  | mk result u =>
    cases done' : x t with
    | mk result' u' =>
      rw [done, done'] at same after
      rw [done] at fits
      obtain rfl : result = result' := same
      cases result with
      | ok a =>
        rw [bindOk f done, bindOk f done']
        exact next a (fits a rfl) u u' after
      | error e =>
        rw [bindError f done, bindError f done']
        exact ⟨rfl, after, fun _ same => by cases same⟩

theorem parallelFailNoting (f : Fault) (lines : Except Audit.Loss (List Audit.Line)) :
    Parallel P (failNoting f lines : Action α) :=
  parallelBind (parallelNote lines) fun _ _ => parallelFail _

theorem parallelOnFault (lines : Fault → Except Audit.Loss (List Audit.Line)) {x : Action α}
    (parallel : Parallel P x) : Parallel P (onFault lines x) := by
  intro s t mirrors
  obtain ⟨same, after, fits⟩ := parallel s t mirrors
  unfold onFault
  cases done : x s with
  | mk result u =>
    cases done' : x t with
    | mk result' u' =>
      rw [done, done'] at same after
      rw [done] at fits
      obtain rfl : result = result' := same
      rcases result with (f | m | rows | m | message) | a
      · exact parallelFailNoting f (lines f) u u' after
      all_goals exact ⟨rfl, after, fits⟩

theorem parallelTransact {ns : String} {x : Action α} (parallel : Parallel P x) :
    Parallel P (transact ns x) := by
  intro s t mirrors
  have entered : Site.Mirrors { s with store := s.store.enter } { t with store := t.store.enter } :=
    ⟨Store.mirrorsEnter mirrors.store, mirrors.validator, mirrors.log⟩
  obtain ⟨same, after, fits⟩ := parallel _ _ entered
  unfold transact
  cases done : x { s with store := s.store.enter } with
  | mk result u =>
    cases done' : x { t with store := t.store.enter } with
    | mk result' u' =>
      rw [done, done'] at same after
      rw [done] at fits
      obtain rfl : result = result' := same
      cases result with
      | ok a => exact ⟨rfl, after, fits⟩
      | error e =>
        -- each side goes back to what its own store held before, and those two were mirrored
        have back := Store.mirrorsRollback ns after.store mirrors.store
        exact ⟨rfl, ⟨back, after.validator, after.log⟩, fun _ same => by cases same⟩

theorem parallelReturn {x : Action α} (f : α → β) (parallel : Parallel P x) :
    Parallel (fun _ => True) (do return f (← x)) :=
  parallelBind parallel fun _ _ => parallelPure trivial

end Action

theorem loadParallel (h : Host) (ns : String) :
    (h.load ns).Parallel fun found => ∀ r, found = some r → r.Regular := by
  intro s t mirrors
  obtain ⟨same, after, regular⟩ := Store.mirrorsGet mirrors.store ns
  unfold Host.load
  cases read : s.store.get ns with
  | mk result u =>
    cases read' : t.store.get ns with
    | mk result' u' =>
      rw [read, read'] at same after
      rw [read] at regular
      obtain rfl : result = result' := same
      have left : Site.Mirrors { s with store := u } { t with store := u' } :=
        ⟨after, mirrors.validator, mirrors.log⟩
      cases result with
      | ok found => exact ⟨rfl, left, fun _ same => regular _ (Except.ok.inj same ▸ rfl)⟩
      | error f => exact Action.parallelFailNoting f _ _ _ left

theorem keepParallel {next : State} (filled : next.Filled) (ns : String) :
    (next.keep ns).Parallel fun _ => True := by
  intro s t mirrors
  obtain ⟨r, flat, regular, -⟩ := recordOfFilled filled
  obtain ⟨s', t', kept, kept', after⟩ := Store.mirrorsSet mirrors.store ns regular
  simp only [State.keep, flat, kept, kept']
  exact ⟨trivial, ⟨after, mirrors.validator, mirrors.log⟩, fun _ _ => trivial⟩

namespace Service

variable (svc : Service) (h : Host) (who : Option Party)

theorem stateParallel : (svc.state h).Parallel State.Filled :=
  Action.parallelBind (loadParallel h svc.ns) fun _ regular =>
    Action.parallelPure (filledOfRegular regular)

theorem currentAdminParallel : (svc.currentAdmin h).Parallel fun _ => True :=
  Action.parallelReturn _ (svc.stateParallel h)

theorem proposedAdminParallel : (svc.proposedAdmin h).Parallel fun _ => True :=
  Action.parallelReturn _ (svc.stateParallel h)

theorem isAbolishedParallel : (svc.isAbolished h).Parallel fun _ => True :=
  Action.parallelReturn _ (svc.stateParallel h)

theorem viewParallel : (svc.view h).Parallel fun _ => True :=
  Action.parallelReturn _ (svc.stateParallel h)

theorem isAdminParallel : (svc.isAdmin h who).Parallel fun _ => True :=
  Action.parallelReturn _ (svc.currentAdminParallel h)

theorem isProposedParallel : (svc.isProposed h who).Parallel fun _ => True :=
  Action.parallelReturn _ (svc.proposedAdminParallel h)

theorem assertAdminParallel : (svc.assertAdmin h who).Parallel fun _ => True := by
  refine Action.parallelBind (svc.isAdminParallel h who) fun answer _ => ?_
  split
  · exact Action.parallelPure trivial
  · exact Action.parallelFail _

theorem assertProposedParallel : (svc.assertProposed h who).Parallel fun _ => True := by
  refine Action.parallelBind (svc.isProposedParallel h who) fun answer _ => ?_
  split
  · exact Action.parallelPure trivial
  · exact Action.parallelFail _

theorem surveyParallel : (svc.survey h).Parallel fun _ => True := by
  refine Action.parallelBind (svc.currentAdminParallel h) fun _ _ => ?_
  refine Action.parallelBind (svc.proposedAdminParallel h) fun _ _ => ?_
  refine Action.parallelBind (svc.isAbolishedParallel h) fun _ _ => ?_
  refine Action.parallelBind (svc.viewParallel h) fun _ _ => ?_
  exact Action.parallelReturn _ (svc.viewParallel h)

theorem mutateParallel {d : Validator → State → Except Failure State × Validator}
    (fills : ∀ v st next, State.Filled st → (d v st).1 = .ok next → next.Filled) :
    (svc.mutate h d).Parallel State.Filled := by
  refine Action.parallelTransact (Action.parallelBind (svc.stateParallel h) fun st filled => ?_)
  refine Action.parallelBind (Action.parallelDecide fun v next => fills v st next filled) ?_
  intro next kept
  exact Action.parallelBind (keepParallel kept svc.ns) fun _ _ => Action.parallelPure kept

theorem establishParallel (r : Request) : (svc.establish h r).Parallel fun _ => True := by
  unfold establish
  cases inside : r.startsRole with
  | false => exact Action.parallelFail _
  | true =>
    have mutated := svc.mutateParallel h (d := fun v s => s.start v r) fun v st next filled kept =>
      movesFilled (startMoves filled inside kept)
    refine Action.parallelBind (Action.parallelOnFault _ mutated) fun next _ => ?_
    exact Action.parallelBind (Action.parallelNote _) fun _ _ => Action.parallelPure trivial

theorem updateParallel (r : Request) : (svc.update h who r).Parallel fun _ => True := by
  unfold update
  cases r.changesRole with
  | false => exact Action.parallelFail _
  | true =>
    have mutated := svc.mutateParallel h (d := fun v s => s.change v who r) fun v st next filled kept =>
      movesFilled (changeMoves filled kept)
    refine Action.parallelBind (Action.parallelOnFault _ mutated) fun next _ => ?_
    exact Action.parallelBind (Action.parallelNote _) fun _ _ => Action.parallelPure trivial

end Service

theorem Call.performParallel (c : Call) : c.perform.Parallel fun _ => True := by
  unfold perform
  split
  · exact Action.parallelReturn _ (c.service.establishParallel c.host _)
  · exact Action.parallelReturn _ (c.service.updateParallel c.host _ _)

namespace Visit

theorem performParallel (v : Visit) : v.perform.Parallel fun _ => True := by
  obtain ⟨svc, h, validator, errand⟩ := v
  cases errand <;> refine Action.parallelReturn (P := fun _ => True) _ ?_
  case change asked => exact Call.performParallel ⟨svc, h, validator, asked⟩
  case currentAdmin => exact svc.currentAdminParallel h
  case proposedAdmin => exact svc.proposedAdminParallel h
  case isAbolished => exact svc.isAbolishedParallel h
  case view => exact svc.viewParallel h
  case isAdmin who => exact svc.isAdminParallel h who
  case isProposed who => exact svc.isProposedParallel h who
  case assertAdmin who => exact svc.assertAdminParallel h who
  case assertProposed who => exact svc.assertProposedParallel h who

theorem visitMirrors (v : Visit) {s t : Store} (mirrors : s.Mirrors t) :
    v.answer s = v.answer t ∧ (v.after s).Mirrors (v.after t) := by
  obtain ⟨same, after, -⟩ := v.performParallel (v.site s) (v.site t) ⟨mirrors, rfl, rfl⟩
  exact ⟨same, after.store⟩

end Visit

end Handover

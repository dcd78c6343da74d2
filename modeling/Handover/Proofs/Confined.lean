import Handover.Proofs.Cell

/-!
Actions confined to a namespace. What such an action answers depends on nothing but the cell of the
namespace, the mode of the store and the rule of the validator, and it moves no other cell. Every call and
every query of a service is confined to the namespace of the service.
-/
namespace Handover

namespace Validator

def rule : Validator → Validator
  | .canonical bounds => .canonical bounds
  | .listed refused _ => .listed refused []

structure Fair (d : Validator → Except Failure State × Validator) : Prop where
  answers : ∀ v w, v.rule = w.rule → (d v).1 = (d w).1
  keeps : ∀ v, (d v).2.rule = v.rule

theorem validateAlike {v w : Validator} (raw : Json) (alike : v.rule = w.rule) :
    (v.validate raw).1 = (w.validate raw).1 := by
  cases v with
  | canonical b =>
    cases w with
    | canonical b' => cases alike; rfl
    | listed refused seen => cases alike
  | listed refused seen =>
    cases w with
    | canonical b => cases alike
    | listed refused' seen' => cases alike; rfl

theorem validateRule (v : Validator) (raw : Json) : (v.validate raw).2.rule = v.rule := by
  cases v <;> rfl

theorem planFair (p : Plan) : Fair fun v => p.carryOut v := by
  cases p with
  | settle next => exact ⟨fun _ _ _ => rfl, fun _ => rfl⟩
  | validate raw next =>
    constructor
    · intro v w alike
      simp only [Plan.carryOut, validateAlike raw alike]
    · intro v
      exact validateRule v raw

theorem carryOutFair (p : Except Fault Plan) : Fair fun v => carryOut v p := by
  cases p with
  | error f => exact ⟨fun _ _ _ => rfl, fun _ => rfl⟩
  | ok plan => exact planFair plan

end Validator

theorem Mutation.judgeFair (m : Mutation) (s : State) : Validator.Fair fun v => m.judge v s := by
  cases m <;> exact Validator.carryOutFair _

namespace Site

structure Agrees (ns : String) (s t : Site) : Prop where
  mode : s.store.mode = t.store.mode
  cell : s.store.cell? ns = t.store.cell? ns
  rule : s.validator.rule = t.validator.rule

structure Spares (ns : String) (s t : Site) : Prop where
  mode : t.store.mode = s.store.mode
  others : ∀ other, other ≠ ns → t.store.cell? other = s.store.cell? other
  rule : t.validator.rule = s.validator.rule

variable {ns : String} {s t u : Site}

theorem sparesTrans (first : Spares ns s t) (next : Spares ns t u) : Spares ns s u where
  mode := next.mode.trans first.mode
  others := fun other apart => (next.others other apart).trans (first.others other apart)
  rule := next.rule.trans first.rule

end Site

namespace Action

variable {α β : Type} {ns : String}

structure Confined (ns : String) (x : Action α) : Prop where
  answers : ∀ s t : Site, s.Agrees ns t → (x s).1 = (x t).1 ∧ (x s).2.Agrees ns (x t).2
  spares : ∀ s : Site, s.Spares ns (x s).2

theorem confinedPure (a : α) : Confined ns (pure a : Action α) :=
  ⟨fun _ _ agrees => ⟨rfl, agrees⟩, fun _ => ⟨rfl, fun _ _ => rfl, rfl⟩⟩

theorem confinedFail (e : Failure) : Confined ns (fail e : Action α) :=
  ⟨fun _ _ agrees => ⟨rfl, agrees⟩, fun _ => ⟨rfl, fun _ _ => rfl, rfl⟩⟩

theorem confinedNote (lines : Except Audit.Loss (List Audit.Line)) : Confined ns (note lines) := by
  cases lines with
  | error l => exact confinedFail l.failure
  | ok lines =>
    exact ⟨fun _ _ agrees => ⟨rfl, agrees.mode, agrees.cell, agrees.rule⟩,
      fun _ => ⟨rfl, fun _ _ => rfl, rfl⟩⟩

theorem confinedDecide {d : Validator → Except Failure State × Validator} (fair : Validator.Fair d) :
    Confined ns (decide d) where
  answers _ _ agrees :=
    ⟨fair.answers _ _ agrees.rule, agrees.mode, agrees.cell,
      (fair.keeps _).trans (agrees.rule.trans (fair.keeps _).symm)⟩
  spares _ := ⟨rfl, fun _ _ => rfl, fair.keeps _⟩

theorem confinedBind {x : Action α} {f : α → Action β} (first : Confined ns x)
    (next : ∀ a, Confined ns (f a)) : Confined ns (x >>= f) := by
  constructor
  · intro s t agrees
    obtain ⟨same, after⟩ := first.answers s t agrees
    cases done : x s with
    | mk result u =>
      cases done' : x t with
      | mk result' u' =>
        rw [done, done'] at same after
        obtain rfl : result = result' := same
        cases result with
        | ok a =>
          rw [bindOk f done, bindOk f done']
          exact (next a).answers u u' after
        | error e =>
          rw [bindError f done, bindError f done']
          exact ⟨rfl, after⟩
  · intro s
    have spared := first.spares s
    cases done : x s with
    | mk result u =>
      rw [done] at spared
      cases result with
      | ok a =>
        rw [bindOk f done]
        exact Site.sparesTrans spared ((next a).spares u)
      | error e =>
        rw [bindError f done]
        exact spared

theorem confinedFailNoting (f : Fault) (lines : Except Audit.Loss (List Audit.Line)) :
    Confined ns (failNoting f lines : Action α) :=
  confinedBind (confinedNote lines) fun _ => confinedFail _

theorem confinedOnFault (lines : Fault → Except Audit.Loss (List Audit.Line)) {x : Action α}
    (only : Confined ns x) : Confined ns (onFault lines x) := by
  constructor
  · intro s t agrees
    obtain ⟨same, after⟩ := only.answers s t agrees
    unfold onFault
    cases done : x s with
    | mk result u =>
      cases done' : x t with
      | mk result' u' =>
        rw [done, done'] at same after
        obtain rfl : result = result' := same
        rcases result with (f | m | rows | m | message) | a
        · exact (confinedFailNoting f (lines f)).answers u u' after
        all_goals exact ⟨rfl, after⟩
  · intro s
    have spared := only.spares s
    unfold onFault
    cases done : x s with
    | mk result u =>
      rw [done] at spared
      rcases result with (f | m | rows | m | message) | a
      · exact Site.sparesTrans spared ((confinedFailNoting f (lines f)).spares u)
      all_goals exact spared

theorem confinedTransact {x : Action α} (only : Confined ns x) : Confined ns (transact ns x) := by
  have entered (s : Site) : s.Spares ns { s with store := s.store.enter } :=
    ⟨Store.modeEnter s.store, fun other _ => Store.cellEnter s.store other, rfl⟩
  constructor
  · intro s t agrees
    have inside : Site.Agrees ns { s with store := s.store.enter } { t with store := t.store.enter } :=
      ⟨by rw [Store.modeEnter, Store.modeEnter, agrees.mode],
        by rw [Store.cellEnter, Store.cellEnter, agrees.cell], agrees.rule⟩
    obtain ⟨same, after⟩ := only.answers _ _ inside
    have spared := Site.sparesTrans (entered s) (only.spares _)
    have spared' := Site.sparesTrans (entered t) (only.spares _)
    unfold transact
    cases done : x { s with store := s.store.enter } with
    | mk result u =>
      cases done' : x { t with store := t.store.enter } with
      | mk result' u' =>
        rw [done, done'] at same after
        rw [done] at spared
        rw [done'] at spared'
        obtain rfl : result = result' := same
        cases result with
        | ok a => exact ⟨rfl, after⟩
        | error e =>
          have back := Store.rollbackAssigned ns (congrArg Option.isSome spared.mode)
          have back' := Store.rollbackAssigned ns (congrArg Option.isSome spared'.mode)
          exact ⟨rfl, back.mode.trans (after.mode.trans back'.mode.symm),
            back.own.trans (agrees.cell.trans back'.own.symm), after.rule⟩
  · intro s
    have spared := Site.sparesTrans (entered s) (only.spares _)
    unfold transact
    cases done : x { s with store := s.store.enter } with
    | mk result u =>
      rw [done] at spared
      cases result with
      | ok a => exact spared
      | error e =>
        have back := Store.rollbackAssigned ns (congrArg Option.isSome spared.mode)
        exact ⟨back.mode.trans spared.mode,
          fun other apart => (back.others other apart).trans (spared.others other apart), spared.rule⟩

end Action

theorem loadConfined (h : Host) (ns : String) : (h.load ns).Confined ns := by
  have read (s : Site) : s.Spares ns { s with store := (s.store.get ns).2 } :=
    have same := Store.contentCells (Store.contentGet s.store ns)
    ⟨same.1, fun other _ => same.2 other, rfl⟩
  constructor
  · intro s t agrees
    have found := Store.getAlike agrees.mode agrees.cell
    have same := Store.contentCells (Store.contentGet s.store ns)
    have same' := Store.contentCells (Store.contentGet t.store ns)
    have after : Site.Agrees ns { s with store := (s.store.get ns).2 }
        { t with store := (t.store.get ns).2 } :=
      ⟨same.1.trans (agrees.mode.trans same'.1.symm),
        (same.2 ns).trans (agrees.cell.trans (same'.2 ns).symm), agrees.rule⟩
    simp only [Host.load, ← found]
    cases (s.store.get ns).1 with
    | ok r => exact ⟨rfl, after⟩
    | error f => exact (Action.confinedFailNoting f _).answers _ _ after
  · intro s
    simp only [Host.load]
    cases (s.store.get ns).1 with
    | ok r => exact read s
    | error f => exact Site.sparesTrans (read s) ((Action.confinedFailNoting f _).spares _)

theorem keepConfined (next : State) (ns : String) : (next.keep ns).Confined ns := by
  unfold State.keep
  cases next.toRecord with
  | error flaw => exact Action.confinedFail _
  | ok r =>
    constructor
    · intro s t agrees
      rcases Store.setAlike ns r agrees.mode with
        ⟨e, failed, failed'⟩ | ⟨c, u, u', kept, kept', assigned, assigned'⟩
      · simp only [failed, failed']
        exact ⟨trivial, agrees⟩
      · simp only [kept, kept']
        exact ⟨trivial, assigned.mode.trans (agrees.mode.trans assigned'.mode.symm),
          assigned.own.trans assigned'.own.symm, agrees.rule⟩
    · intro s
      rcases Store.setEncoded s.store ns r with ⟨e, -, failed⟩ | ⟨c, u, -, kept, assigned⟩
      · simp only [failed]
        exact ⟨rfl, fun _ _ => rfl, rfl⟩
      · simp only [kept]
        exact ⟨assigned.mode, assigned.others, rfl⟩

namespace Service

variable (svc : Service) (h : Host) (who : Option Party)

theorem stateConfined : (svc.state h).Confined svc.ns :=
  Action.confinedBind (loadConfined h svc.ns) fun _ => Action.confinedPure _

theorem currentAdminConfined : (svc.currentAdmin h).Confined svc.ns :=
  Action.confinedBind (svc.stateConfined h) fun _ => Action.confinedPure _

theorem proposedAdminConfined : (svc.proposedAdmin h).Confined svc.ns :=
  Action.confinedBind (svc.stateConfined h) fun _ => Action.confinedPure _

theorem isAbolishedConfined : (svc.isAbolished h).Confined svc.ns :=
  Action.confinedBind (svc.stateConfined h) fun _ => Action.confinedPure _

theorem viewConfined : (svc.view h).Confined svc.ns :=
  Action.confinedBind (svc.stateConfined h) fun _ => Action.confinedPure _

theorem isAdminConfined : (svc.isAdmin h who).Confined svc.ns :=
  Action.confinedBind (svc.currentAdminConfined h) fun _ => Action.confinedPure _

theorem isProposedConfined : (svc.isProposed h who).Confined svc.ns :=
  Action.confinedBind (svc.proposedAdminConfined h) fun _ => Action.confinedPure _

theorem assertAdminConfined : (svc.assertAdmin h who).Confined svc.ns := by
  refine Action.confinedBind (svc.isAdminConfined h who) fun answer => ?_
  split
  · exact Action.confinedPure _
  · exact Action.confinedFail _

theorem assertProposedConfined : (svc.assertProposed h who).Confined svc.ns := by
  refine Action.confinedBind (svc.isProposedConfined h who) fun answer => ?_
  split
  · exact Action.confinedPure _
  · exact Action.confinedFail _

theorem surveyConfined : (svc.survey h).Confined svc.ns := by
  refine Action.confinedBind (svc.currentAdminConfined h) fun _ => ?_
  refine Action.confinedBind (svc.proposedAdminConfined h) fun _ => ?_
  refine Action.confinedBind (svc.isAbolishedConfined h) fun _ => ?_
  refine Action.confinedBind (svc.viewConfined h) fun _ => ?_
  exact Action.confinedBind (svc.viewConfined h) fun _ => Action.confinedPure _

theorem mutateConfined {d : Validator → State → Except Failure State × Validator}
    (fair : ∀ s, Validator.Fair fun v => d v s) : (svc.mutate h d).Confined svc.ns := by
  unfold mutate
  refine Action.confinedTransact ?_
  refine Action.confinedBind (svc.stateConfined h) fun s => ?_
  refine Action.confinedBind (Action.confinedDecide (fair s)) fun next => ?_
  exact Action.confinedBind (keepConfined next svc.ns) fun _ => Action.confinedPure _

theorem establishConfined (r : Request) : (svc.establish h r).Confined svc.ns := by
  unfold establish
  split
  · exact Action.confinedFail _
  · have mutation := svc.mutateConfined h (Mutation.judgeFair (.establish r))
    refine Action.confinedBind (Action.confinedOnFault _ mutation) fun next => ?_
    exact Action.confinedBind (Action.confinedNote _) fun _ => Action.confinedPure _

theorem updateConfined (r : Request) : (svc.update h who r).Confined svc.ns := by
  unfold update
  split
  · exact Action.confinedFail _
  · have mutation := svc.mutateConfined h (Mutation.judgeFair (.update who r))
    refine Action.confinedBind (Action.confinedOnFault _ mutation) fun next => ?_
    exact Action.confinedBind (Action.confinedNote _) fun _ => Action.confinedPure _

end Service

namespace Call

theorem mutationConfined (c : Call) : c.mutation.Confined c.service.ns := by
  unfold mutation
  split
  · exact c.service.mutateConfined c.host c.asked.judgeFair
  · exact Action.confinedFail _

theorem performConfined (c : Call) : c.perform.Confined c.service.ns := by
  unfold perform
  split
  · exact Action.confinedBind (c.service.establishConfined c.host _) fun _ => Action.confinedPure _
  · exact Action.confinedBind (c.service.updateConfined c.host _ _) fun _ => Action.confinedPure _

end Call

end Handover

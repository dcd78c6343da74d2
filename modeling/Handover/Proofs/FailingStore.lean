import Handover.Proofs.KeptRecord
import Handover.Proofs.Settlement
import Handover.Proofs.Write

/-!
Calls on stores that may be told to fail. The state of a namespace is what the store would give if it were
calm. A call of either kind of store is refused and moves no namespace, or makes one move in its own.
-/
namespace Handover

theorem stateOfRecord {s : State} {r : Record} (filled : s.Filled) (flat : s.toRecord = .ok r) :
    State.ofRecord (some r) = s := by
  cases filled <;> cases flat <;> rfl

namespace Store

variable {s t : Store} {ns : String} {st : State}

def calm (s : Store) : Store := s.setFailures false false

theorem calmCell (s : Store) (ns : String) : s.calm.cell? ns = s.cell? ns := by
  cases s <;> rfl

theorem calmMode (s : Store) : s.calm.mode = s.mode.map fun _ => (false, false) := by
  cases s <;> rfl

theorem calmAlike (kind : s.mode.isSome = t.mode.isSome) (cell : s.cell? ns = t.cell? ns) :
    s.calm.stateAt ns = t.calm.stateAt ns := by
  have mode : s.calm.mode = t.calm.mode := by
    rw [calmMode, calmMode]
    cases left : s.mode <;> cases right : t.mode <;> rw [left, right] at kind <;> first | rfl | cases kind
  have same : s.calm.cell? ns = t.calm.cell? ns := by rw [calmCell, calmCell, cell]
  rw [stateAt, stateAt, getAlike mode same]

theorem calmContent (same : s.content = t.content) (ns : String) :
    s.calm.stateAt ns = t.calm.stateAt ns := by
  obtain ⟨mode, cells⟩ := contentCells same
  exact calmAlike (congrArg Option.isSome mode) (cells ns)

theorem calmFailures (s : Store) (get set : Bool) : (s.setFailures get set).calm = s.calm := by
  cases s <;> rfl

theorem calmRead (known : s.calm.stateAt ns = .ok st) :
    s.stateAt ns = .ok st ∨ (s.get ns).1 = .error (.storage ns .unreadable) := by
  cases s with
  | bytes b => exact Or.inl known
  | plain p =>
    cases fails : p.failsGet with
    | true => exact Or.inr (by simp only [get, PlainStore.get, fails, if_true])
    | false =>
      refine Or.inl (Eq.trans ?_ known)
      simp only [stateAt, calm, setFailures, get, PlainStore.get, PlainStore.cell?, fails]

theorem calmKnown (known : s.stateAt ns = .ok st) : s.calm.stateAt ns = .ok st := by
  cases s with
  | bytes b => exact known
  | plain p =>
    cases fails : p.failsGet with
    | true =>
      simp only [stateAt, get, PlainStore.get, fails, if_true] at known
      cases known
    | false =>
      refine Eq.trans ?_ known
      simp only [stateAt, calm, setFailures, get, PlainStore.get, PlainStore.cell?, fails]

section
variable {r : Record} {c : Cell} (filled : st.Filled) (flat : st.toRecord = .ok r)
include filled flat

theorem bytesEncoded {b b' : ByteStore} (coded : (Store.bytes b).encode ns r = .ok c)
    (held : (Store.bytes b').cell? ns = some c) : (Store.bytes b').calm.stateAt ns = .ok st := by
  obtain ⟨r', flat', regular, -⟩ := recordOfFilled filled
  obtain rfl : r' = r := Except.ok.inj (flat'.symm.trans flat)
  simp only [encode, Record.formOfRegular regular] at coded
  cases coded
  have raw : b'.cell? ns = some r'.form.toBytes := by
    obtain ⟨raw, found, same⟩ := Option.map_eq_some_iff.mp held
    cases same
    exact found
  simp only [stateAt, calm, setFailures, get, ByteStore.get, raw, ByteStore.decodeRegular ns regular]
  exact congrArg Except.ok (stateOfRecord filled flat)

theorem plainEncoded {p q : PlainStore} (coded : (Store.plain p).encode ns r = .ok c)
    (held : (Store.plain q).cell? ns = some c) : (Store.plain q).calm.stateAt ns = .ok st := by
  simp only [encode] at coded
  split at coded
  · cases coded
  · cases coded
    have own : q.cell? ns = some r := by
      obtain ⟨r', found, same⟩ := Option.map_eq_some_iff.mp held
      cases same
      exact found
    simp only [stateAt, calm, setFailures, get, PlainStore.get, Bool.false_eq_true, if_false]
    exact congrArg Except.ok ((congrArg State.ofRecord own).trans (stateOfRecord filled flat))

theorem calmEncoded (coded : s.encode ns r = .ok c) (kind : t.mode.isSome = s.mode.isSome)
    (held : t.cell? ns = some c) : t.calm.stateAt ns = .ok st := by
  cases s with
  | bytes b =>
    cases t with
    | bytes b' => exact bytesEncoded filled flat coded held
    | plain q => cases kind
  | plain p =>
    cases t with
    | bytes b => cases kind
    | plain q => exact plainEncoded filled flat coded held

end

def Sound (s : Store) : Prop := ∀ ns, ∃ st, s.calm.stateAt ns = .ok st ∧ st.Filled

theorem soundFilled (sound : s.Sound) (known : s.calm.stateAt ns = .ok st) : st.Filled := by
  obtain ⟨st', found, filled⟩ := sound ns
  obtain rfl : st' = st := Except.ok.inj (found.symm.trans known)
  exact filled

end Store

theorem loadGives {h : Host} {ns : String} {s t : Site} {found : Option Record}
    (done : h.load ns s = (.ok found, t)) :
    (s.store.get ns).1 = .ok found ∧ t.validator = s.validator := by
  unfold Host.load at done
  cases got : s.store.get ns with
  | mk result store =>
    rw [got] at done
    cases result with
    | ok found' => cases done; exact ⟨rfl, rfl⟩
    | error f =>
      obtain ⟨_, _, -, failed⟩ := Action.bindOkGives done
      cases failed

theorem mutateJudged {svc : Service} {h : Host}
    {d : Validator → State → Except Failure State × Validator}
    {s t : Site} {next : State} (done : svc.mutate h d s = (.ok next, t)) :
    ∃ st, s.store.calm.stateAt svc.ns = .ok st ∧ (d s.validator st).1 = .ok next := by
  obtain ⟨st, read, judged, loaded, decided, -⟩ := Call.mutateSteps done
  obtain ⟨found, _, got, rest⟩ := Action.bindOkGives loaded
  cases rest
  obtain ⟨same, unmoved⟩ := loadGives got
  refine ⟨State.ofRecord found, ?_, ?_⟩
  · rw [← Store.calmContent (Store.contentEnter s.store) svc.ns]
    exact Store.calmKnown (by rw [Store.stateAt, same]; rfl)
  · have verdict := congrArg Prod.fst decided
    rw [Action.decide, unmoved] at verdict
    exact verdict

namespace Call

variable {c : Call} {s : Store} {st next : State}

theorem outcomeJudged (kept : c.outcome s = .ok next) :
    ∃ st, s.calm.stateAt c.service.ns = .ok st ∧ c.verdict st = .ok next := by
  unfold outcome at kept
  cases done : c.mutation (c.site s) with
  | mk result t =>
    rw [done] at kept
    obtain rfl : result = .ok next := kept
    unfold mutation at done
    split at done
    · rename_i inside
      obtain ⟨st, known, judged⟩ := mutateJudged done
      refine ⟨st, known, ?_⟩
      rw [verdict, if_pos inside]
      exact judged
    · cases done

theorem outcomeMoves (filled : st.Filled) (known : s.calm.stateAt c.service.ns = .ok st)
    (kept : c.outcome s = .ok next) : Moves st c.asked next := by
  obtain ⟨st', found, judged⟩ := outcomeJudged kept
  obtain rfl : st' = st := Except.ok.inj (found.symm.trans known)
  exact verdictMoves filled judged

theorem settlesCalm (filled : st.Filled) (known : s.calm.stateAt c.service.ns = .ok st) :
    (∃ e, c.outcome s = .error e ∧ ∀ ns, (c.after s).calm.stateAt ns = s.calm.stateAt ns) ∨
    ∃ next, Moves st c.asked next ∧ c.outcome s = .ok next ∧
      (c.after s).calm.stateAt c.service.ns = .ok next ∧
      ∀ ns, ns ≠ c.service.ns → (c.after s).calm.stateAt ns = s.calm.stateAt ns := by
  cases settled : c.outcome s with
  | error e => exact Or.inl ⟨e, rfl, Store.calmContent (refusedKeepsContent settled)⟩
  | ok next =>
    have moved := outcomeMoves filled known settled
    obtain ⟨r, cell, flat, coded, taken⟩ := afterWrites settled
    refine Or.inr ⟨next, moved, rfl, ?_, fun ns apart => ?_⟩
    · refine Store.calmEncoded (movesFilled moved) flat coded taken.kind ?_
      rw [taken.cells]
      simp [Write.at]
    · refine Store.calmAlike taken.kind ?_
      rw [taken.cells]
      simp [Write.at, Ne.symm apart]

end Call

namespace Service

variable {svc : Service} {s : Store} {st : State}

theorem stateGiven (known : s.stateAt svc.ns = .ok st) (h : Host) (v : Validator)
    (noted : List Audit.Line) : (svc.state h ⟨s, v, noted⟩).1 = .ok st := by
  unfold Store.stateAt at known
  cases got : s.get svc.ns with
  | mk result store =>
    rw [got] at known
    cases result with
    | error f => cases known
    | ok found =>
      cases known
      have loaded : h.load svc.ns ⟨s, v, noted⟩ = (.ok found, ⟨store, v, noted⟩) := by
        simp only [Host.load, got]
      rw [state, Action.bindOk _ loaded]
      rfl

end Service

end Handover

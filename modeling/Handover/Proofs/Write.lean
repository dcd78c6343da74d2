import Handover.Proofs.Cell

/-!
Writes. A write puts a cell in a namespace or empties namespaces; each change of a store makes one write or
none. A call makes the write of its next state if its mutation is kept, and none if it is refused.
-/
namespace Handover

structure Write where
  ns : Option String
  cell : Option Cell

def Write.at (e : Write) (ns : String) : List (Option Cell) :=
  if e.ns.getD ns = ns then [e.cell] else []

namespace Store

variable {s t : Store} {ns : String}

structure Takes (s t : Store) (e : Option Write) : Prop where
  kind : t.mode.isSome = s.mode.isSome
  cells : ∀ ns, t.cell? ns = (e.elim [] fun e => e.at ns).getLast?.getD (s.cell? ns)

theorem takesNothing (same : t.content = s.content) : s.Takes t none :=
  ⟨congrArg Option.isSome (contentCells same).1, (contentCells same).2⟩

theorem takesCell {c : Option Cell} (assigned : s.Assigned ns c t) : s.Takes t (some ⟨some ns, c⟩) := by
  refine ⟨congrArg Option.isSome assigned.mode, fun m => ?_⟩
  by_cases own : ns = m
  · subst own
    simp [Write.at, assigned.own]
  · simp [Write.at, own, assigned.others m (Ne.symm own)]

def write? (s : Store) (ns : String) (r : Record) : Option Write :=
  (s.encode ns r).toOption.map fun c => ⟨some ns, some c⟩

def seeding? (s : Store) (ns : String) (r : Record) : Option Write :=
  match s with
  | .bytes _ => none
  | .plain _ => some ⟨some ns, some (.record r)⟩

def planting? (s : Store) (ns : String) (raw : ByteArray) : Option Write :=
  match s with
  | .bytes _ => some ⟨some ns, some (.bytes raw)⟩
  | .plain _ => none

def clearing? : Store → Option Write
  | .bytes _ => none
  | .plain _ => some ⟨none, none⟩

theorem setTakes {r : Record} (kept : s.set ns r = .ok t) : s.Takes t (s.write? ns r) := by
  rcases setEncoded s ns r with ⟨e, -, failed⟩ | ⟨c, u, coded, stored, assigned⟩
  · rw [kept] at failed
    cases failed
  · rw [kept] at stored
    cases stored
    rw [write?, coded]
    exact takesCell assigned

theorem setFailed {r : Record} {e : Failure} (failed : s.set ns r = .error e) :
    s.write? ns r = none := by
  rcases setEncoded s ns r with ⟨e', coded, -⟩ | ⟨c, u, -, stored, -⟩
  · rw [write?, coded]
    rfl
  · rw [failed] at stored
    cases stored

theorem seedTakes (s : Store) (ns : String) (r : Record) : s.Takes (s.seed ns r) (s.seeding? ns r) := by
  cases s with
  | bytes b => exact takesNothing rfl
  | plain p => exact takesCell (seedAssigned p ns r)

theorem plantTakes (s : Store) (ns : String) (raw : ByteArray) :
    s.Takes (s.plant ns raw) (s.planting? ns raw) := by
  cases s with
  | bytes b => exact takesCell (plantAssigned b ns raw)
  | plain p => exact takesNothing rfl

theorem failuresTake (s : Store) (get set : Bool) : s.Takes (s.setFailures get set) none := by
  cases s <;> exact ⟨rfl, fun _ => rfl⟩

theorem clearTakes (s : Store) : s.Takes s.clear s.clearing? := by
  cases s with
  | bytes b => exact takesNothing rfl
  | plain p => exact ⟨rfl, fun ns => by simp [Write.at, clearing?, clear, cell?]; rfl⟩

end Store

theorem Action.bindOkGives {α β : Type} {x : Action α} {f : α → Action β} {s t : Site} {b : β}
    (done : (x >>= f) s = (.ok b, t)) : ∃ a u, x s = (.ok a, u) ∧ f a u = (.ok b, t) := by
  cases first : x s with
  | mk result u =>
    cases result with
    | ok a => exact ⟨a, u, rfl, (Action.bindOk f first).symm.trans done⟩
    | error e => rw [Action.bindError f first] at done; cases done

theorem keepGives {next : State} {ns : String} {s t : Site} (done : next.keep ns s = (.ok (), t)) :
    ∃ r, next.toRecord = .ok r ∧ s.store.set ns r = .ok t.store := by
  unfold State.keep at done
  cases flat : next.toRecord with
  | error flaw => simp only [flat] at done; cases done
  | ok r =>
    cases stored : s.store.set ns r with
    | error e => simp only [flat, stored] at done; cases done
    | ok u => simp only [flat, stored] at done; cases done; exact ⟨r, rfl, stored⟩

namespace Call

def write? (c : Call) (s : Store) : Option Write := do
  let next ← (c.outcome s).toOption
  s.write? c.service.ns (← next.toRecord.toOption)

theorem mutateSteps {svc : Service} {h : Host} {d : Validator → State → Except Failure State × Validator}
    {s t : Site} {next : State} (done : svc.mutate h d s = (.ok next, t)) :
    ∃ st read judged, svc.state h { s with store := s.store.enter } = (.ok st, read) ∧
      Action.decide (fun v => d v st) read = (.ok next, judged) ∧
      next.keep svc.ns judged = (.ok (), t) := by
  unfold Service.mutate Action.transact at done
  split at done
  case h_2 => cases done
  case h_1 next' u inside =>
    cases done
    obtain ⟨st, read, loaded, rest⟩ := Action.bindOkGives inside
    obtain ⟨chosen, judged, decided, rest⟩ := Action.bindOkGives rest
    obtain ⟨_, kept, stored, rest⟩ := Action.bindOkGives rest
    cases rest
    exact ⟨st, read, judged, loaded, decided, stored⟩

theorem mutateGives {svc : Service} {h : Host} {d : Validator → State → Except Failure State × Validator}
    {s t : Site} {next : State} (done : svc.mutate h d s = (.ok next, t)) :
    ∃ r c, next.toRecord = .ok r ∧ s.store.encode svc.ns r = .ok c ∧
      s.store.Takes t.store (some ⟨some svc.ns, some c⟩) := by
  obtain ⟨st, read, judged, loaded, decided, stored⟩ := mutateSteps done
  obtain ⟨r, flat, set⟩ := keepGives stored
  -- what is written is written to the store as it was read, which counts but holds the same
  have entered := Store.contentEnter s.store
  have same := svc.stateReads h { s with store := s.store.enter }
  rw [loaded] at same
  have unmoved : read.store = judged.store := congrArg (fun done => done.2.store) decided
  rw [← unmoved] at set
  have before := Store.contentCells (same.trans entered)
  rcases Store.setEncoded read.store svc.ns r with ⟨e, -, failed⟩ | ⟨c, u, coded, kept, assigned⟩
  · cases failed.symm.trans set
  · cases kept.symm.trans set
    have taken := Store.takesCell assigned
    refine ⟨r, c, flat, (Store.encodeAlike svc.ns r before.1).symm.trans coded, ?_⟩
    exact ⟨taken.kind.trans (congrArg Option.isSome before.1),
      fun m => (taken.cells m).trans (congrArg _ (before.2 m))⟩

theorem afterWrites {c : Call} {s : Store} {next : State} (settled : c.outcome s = .ok next) :
    ∃ r cell, next.toRecord = .ok r ∧ s.encode c.service.ns r = .ok cell ∧
      s.Takes (c.after s) (some ⟨some c.service.ns, some cell⟩) := by
  rw [afterMutation]
  unfold outcome at settled
  cases done : c.mutation (c.site s) with
  | mk result t =>
    rw [done] at settled
    obtain rfl : result = .ok next := settled
    unfold mutation at done
    split at done
    · exact mutateGives done
    · cases done

theorem afterTakes (c : Call) (s : Store) : s.Takes (c.after s) (c.write? s) := by
  unfold write?
  cases settled : c.outcome s with
  | error e => exact Store.takesNothing (refusedKeepsContent settled)
  | ok next =>
    obtain ⟨r, cell, flat, coded, taken⟩ := afterWrites settled
    have written : (do s.write? c.service.ns (← next.toRecord.toOption) : Option Write) =
        some ⟨some c.service.ns, some cell⟩ := by
      rw [flat]
      change s.write? c.service.ns r = _
      rw [Store.write?, coded]
      rfl
    exact written ▸ taken

end Call

end Handover

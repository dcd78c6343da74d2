import Handover.Proofs.Ledger

/-!
Writes that stand. A transaction that fails takes back what was written in its namespace since it began,
also by transactions inside it that had ended well, and takes back nothing else. So what a namespace
holds after any steps is the last write to it that stands, or what it held before.
-/
namespace Handover.Session

open World

def World.scoped (w : World) (id : Option String) : World :=
  { w with around := { w.around with active := Audit.Correlation.enter w.fresh id } }

mutual

/-- What was written in a step, without what a transaction that failed has taken back. -/
def standing (w : World) : Step → Ledger
  | .act a => .single (w.write? a)
  | .transaction name ns ending steps =>
    match w.store name with
    | .error _ => .blank
    | .ok (i, before) =>
      let log := standingAll ending.propagates (w.putStore i before.enter) steps
      match (run w (.transaction name ns ending steps)).1.failure? with
      | some _ => log.strike i ns
      | none => log
  | .scope id ending steps => standingAll ending.propagates (w.scoped id) steps

def standingAll (stops : Bool) (w : World) : List Step → Ledger
  | [] => .blank
  | s :: rest =>
    let (o, v) := run w s
    match stops, o.failure? with
    | true, some _ => standing w s
    | _, _ => (standing w s).append (standingAll stops v rest)

end

section
variable {w u v : World} {log : Ledger} {name ns : String} {i : Nat} {before now : Store}
  {ending : Ending} {steps : List Step}

theorem followsEnter (found : w.store name = .ok (i, before)) :
    w.Follows (w.putStore i before.enter) .blank :=
  followsPut (e := none) (storePlaced found) (Store.takesNothing (Store.contentEnter before)) rfl

theorem followsRollback (whole : w.Follows u log) (found : w.stores[i]? = some before)
    (kept : u.stores[i]? = some now) (kind : now.mode.isSome = before.mode.isSome)
    (back : v.stores = u.stores.set i (now.rollback before ns)) : w.Follows v (log.strike i ns) := by
  -- rolling back is one more write, of what was there before; it hides what it strikes
  have undone := followsPut kept (Store.takesCell (Store.rollbackAssigned ns kind)) back
  constructor
  · exact (followsThen whole undone).kinds
  · intro j m
    rw [undone.cells, whole.cells]
    by_cases own : j = i ∧ m = ns
    · obtain ⟨rfl, rfl⟩ := own
      simp [Ledger.single, Ledger.strike, Write.at, cell?, found]
    · have untouched : Ledger.single (some (i, ⟨some ns, before.cell? ns⟩)) j m = [] := by
        by_cases here : j = i
        · have apart : ¬ ns = m := fun same => own ⟨here, same.symm⟩
          simp [Ledger.single, Write.at, apart]
        · simp [Ledger.single, here]
      change (Ledger.single (some (i, ⟨some ns, before.cell? ns⟩)) j m).getLast?.getD _ = _
      rw [untouched, Ledger.strike, if_neg own]
      rfl

theorem blockFailure (failure : Option Failure) (lines : List Audit.Line)
    (stores : List (String × Store)) (active : Option String) (inner : List Outcome) :
    (Outcome.block ⟨blockAnswer failure, lines, stores⟩ active inner).failure? = failure := by
  cases failure <;> rfl

theorem transactionRun (ns : String) (found : w.store name = .ok (i, before))
    (ran : (runAll ending.propagates (w.putStore i before.enter) steps).2.2 = u)
    (kept : u.stores[i]? = some now) :
    (run w (.transaction name ns ending steps)).2.stores =
      match (run w (.transaction name ns ending steps)).1.failure? with
      | some _ => u.stores.set i (now.rollback before ns)
      | none => u.stores := by
  subst ran
  simp only [run, found, kept, World.report, blockFailure]
  cases ending.failure? _ <;> rfl

theorem standingFailed (found : w.store name = .ok (i, before))
    (failed : (run w (.transaction name ns ending steps)).1.failure?.isSome) :
    standing w (.transaction name ns ending steps) =
      (standingAll ending.propagates (w.putStore i before.enter) steps).strike i ns := by
  obtain ⟨e, failure⟩ := Option.isSome_iff_exists.mp failed
  simp only [standing, found, failure]

theorem transactionFollows (ns : String) (found : w.store name = .ok (i, before))
    (inside : (w.putStore i before.enter).Follows
      (runAll ending.propagates (w.putStore i before.enter) steps).2.2 log) :
    w.Follows (run w (.transaction name ns ending steps)).2
      (match (run w (.transaction name ns ending steps)).1.failure? with
        | some _ => log.strike i ns
        | none => log) := by
  have placed := storePlaced found
  have whole : w.Follows _ log := followsThen (followsEnter found) inside
  obtain ⟨now, kept, kind⟩ := whole.kinds i before placed
  have stores := transactionRun ns found rfl kept
  split at stores
  · exact followsRollback whole placed kept kind stores
  · exact followsTo whole stores

end

-- Every step of the recursion adds its ledger to the world it starts from, so the world varies.
mutual

theorem runFollows (w : World) : (s : Step) → w.Follows (run w s).2 (standing w s)
  | .act a => by
    rw [run, standing]
    exact followsTo (performFollows w a) rfl
  | .transaction name ns ending steps => by
    cases found : w.store name with
    | error e =>
      simp only [run, standing, found]
      exact followsSame rfl
    | ok named =>
      obtain ⟨i, before⟩ := named
      have inside := runAllFollows ending.propagates (w.putStore i before.enter) steps
      have whole := transactionFollows ns found inside
      simp only [standing, found]
      exact whole
  | .scope id ending steps => by
    rw [run, standing]
    have inside := runAllFollows ending.propagates (w.scoped id) steps
    have entered : w.Follows (w.scoped id) .blank := followsSame rfl
    exact followsTo (followsThen entered inside) rfl

theorem runAllFollows (stops : Bool) (w : World) :
    (steps : List Step) → w.Follows (runAll stops w steps).2.2 (standingAll stops w steps)
  | [] => followsSame rfl
  | s :: rest => by
    have first := runFollows w s
    have later := runAllFollows stops (run w s).2 rest
    have both := followsThen first later
    cases ran : run w s with
    | mk o v =>
      rw [ran] at first both
      cases stops with
      | false =>
        simp only [runAll, standingAll, ran]
        exact both
      | true =>
        cases failed : o.failure? with
        | none =>
          simp only [runAll, standingAll, ran, failed]
          exact both
        | some e =>
          simp only [runAll, standingAll, ran, failed]
          exact first

end

/-- What a namespace holds after any steps is the last write to it that stands, or what it held before.
A transaction that fails leaves its own namespace as it found it, whatever ended well inside, and every
other namespace as its steps left it. -/
theorem lastStandingWrite (stops : Bool) (w : World) (steps : List Step) :
    (∀ i ns, (runAll stops w steps).2.2.cell? i ns =
      (standingAll stops w steps i ns).getLast?.getD (w.cell? i ns)) ∧
    ∀ (u : World) (name m : String) (ending : Ending) (inner : List Step) (i : Nat) (before : Store),
      u.store name = .ok (i, before) →
      (run u (.transaction name m ending inner)).1.failure?.isSome →
      (run u (.transaction name m ending inner)).2.cell? i m = u.cell? i m ∧
      ∀ j ns, ¬ (j = i ∧ ns = m) →
        (run u (.transaction name m ending inner)).2.cell? j ns =
          (runAll ending.propagates (u.putStore i before.enter) inner).2.2.cell? j ns := by
  refine ⟨(runAllFollows stops w steps).cells, ?_⟩
  intro u name m ending inner i before found failed
  have whole := runFollows u (.transaction name m ending inner)
  have inside := runAllFollows ending.propagates (u.putStore i before.enter) inner
  have entered := followsEnter found
  rw [standingFailed found failed] at whole
  constructor
  · rw [whole.cells, Ledger.strike, if_pos ⟨rfl, rfl⟩]
    rfl
  · intro j ns other
    rw [whole.cells, Ledger.strike, if_neg other, inside.cells, entered.cells]
    rfl

def stocked : World :=
  { World.start [] "" "" with
    stores := [.bytes ⟨[("xyz", "kept".toUTF8)]⟩], storeNames := [("s", 0)] }

def raising (ns : String) (steps : List Step) : Step := .transaction "s" ns ⟨false, some "stop"⟩ steps

def planting (ns text : String) : Step := .act (.plant "s" ns text.toUTF8)

def nested : List Step :=
  [planting "xyz" "first", raising "abc" [planting "abc" "inner", planting "xyz" "second"],
    planting "abc" "outer"]

theorem outerTakesBack :
    (run stocked (raising "xyz" nested)).2.cell? 0 "xyz" = some (.bytes "kept".toUTF8) ∧
      (run stocked (raising "xyz" nested)).2.cell? 0 "abc" = some (.bytes "outer".toUTF8) := by
  have found : stocked.store "s" = .ok (0, .bytes ⟨[("xyz", "kept".toUTF8)]⟩) := rfl
  have failed : (run stocked (raising "xyz" nested)).1.failure?.isSome := rfl
  obtain ⟨own, others⟩ := (lastStandingWrite false stocked []).2 stocked "s" "xyz"
    ⟨false, some "stop"⟩ nested 0 _ found failed
  exact ⟨own, (others 0 "abc" (by decide)).trans rfl⟩

end Handover.Session

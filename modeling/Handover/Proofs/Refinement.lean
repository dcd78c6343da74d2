import Handover.Proofs.Mirror
import Handover.Session.Run

/-!
Programs over the one kind of store or the other. A program that asks services and looks up records, in
transactions and scopes that end as they will, runs over empty stores of bytes as it runs over empty stores
of records: it is told the same at every step, and after every step the stores hold the same.
-/
namespace Handover.Session

open World

def Act.isServing : Act → Bool
  | .establish .. | .update .. | .query .. | .isAdmin .. | .isProposed .. | .assertAdmin ..
  | .assertProposed .. | .get .. => true
  | _ => false

mutual

def Step.isServing : Step → Bool
  | .act a => a.isServing
  | .transaction _ _ _ steps | .scope _ _ steps => allServing steps

def allServing : List Step → Bool
  | [] => true
  | s :: rest => s.isServing && allServing rest

end

def World.storing (w : World) (s : Store) : World := { w with stores := w.stores.map fun _ => s }

inductive World.Mirrors (w : World) : World → Prop
  | alike {stores : List Store} (mirrors : w.stores.Forall₂ Store.Mirrors stores) :
    Mirrors w { w with stores }

structure Report.Mirrors (r r' : Report) : Prop where
  answer : r.answer = r'.answer
  lines : r.lines = r'.lines
  stores : List.Forall₂ (fun s s' : String × Store => s.1 = s'.1 ∧ s.2.Mirrors s'.2) r.stores r'.stores

inductive Outcome.Mirrors : Outcome → Outcome → Prop
  | act {r r' : Report} (reports : r.Mirrors r') : Mirrors (.act r) (.act r')
  | block {r r' : Report} (reports : r.Mirrors r') (active : Option String)
    {inner inner' : List Outcome} (inside : List.Forall₂ Mirrors inner inner') :
    Mirrors (.block r active inner) (.block r' active inner')

section
variable {α β : Type} {R : α → β → Prop} {l : List α} {m : List β}

theorem pairedAt (paired : l.Forall₂ R m) (i : Nat) :
    (l[i]? = none ∧ m[i]? = none) ∨ ∃ a b, l[i]? = some a ∧ m[i]? = some b ∧ R a b := by
  induction paired generalizing i with
  | nil => exact Or.inl ⟨rfl, rfl⟩
  | cons first rest ih =>
    cases i with
    | zero => exact Or.inr ⟨_, _, rfl, rfl, first⟩
    | succ i => exact ih i

theorem pairedSet (paired : l.Forall₂ R m) (i : Nat) {a : α} {b : β} (fits : R a b) :
    (l.set i a).Forall₂ R (m.set i b) := by
  induction paired generalizing i with
  | nil => exact .nil
  | cons first rest ih =>
    cases i with
    | zero => exact .cons fits rest
    | succ i => exact .cons first (ih i)

end

namespace World

variable {w v : World} {name : String}

theorem storingMirrors (w : World) : (w.storing (.bytes .empty)).Mirrors (w.storing (.plain .empty)) := by
  refine .alike ?_
  simp only [storing]
  induction w.stores with
  | nil => exact .nil
  | cons s rest ih => exact .cons Store.mirrorsEmpty ih

theorem mirrorsStore (mirrors : w.Mirrors v) (name : String) :
    (∃ e, w.store name = .error e ∧ v.store name = .error e) ∨
      ∃ i s t, w.store name = .ok (i, s) ∧ v.store name = .ok (i, t) ∧ s.Mirrors t := by
  cases mirrors with
  | @alike stores paired =>
    simp only [store, place]
    cases find name w.storeNames with
    | error e => exact Or.inl ⟨e, rfl, rfl⟩
    | ok i =>
      simp only [bind, Except.bind]
      rcases pairedAt paired i with ⟨none, none'⟩ | ⟨s, t, found, found', same⟩
      · rw [none, none']
        exact Or.inl ⟨_, rfl, rfl⟩
      · rw [found, found']
        exact Or.inr ⟨i, s, t, rfl, rfl, same⟩

theorem mirrorsPut (mirrors : w.Mirrors v) (i : Nat) {s t : Store} (same : s.Mirrors t) :
    (w.putStore i s).Mirrors (v.putStore i t) := by
  cases mirrors with
  | alike paired => exact .alike (pairedSet paired i same)

theorem mirrorsNote (mirrors : w.Mirrors v) (lines : List Audit.Line) :
    (w.note lines).Mirrors (v.note lines) := by
  cases mirrors with
  | alike paired => exact .alike paired

theorem mirrorsValidator (mirrors : w.Mirrors v) (i : Nat) (d : Validator) :
    (w.putValidator i d).Mirrors (v.putValidator i d) := by
  cases mirrors with
  | alike paired => exact .alike paired

theorem mirrorsReport (mirrors : w.Mirrors v) (answer : Except Failure Answer) :
    (w.report answer).1.Mirrors (v.report answer).1 ∧
      (w.report answer).2.Mirrors (v.report answer).2 := by
  cases mirrors with
  | @alike stores paired =>
    refine ⟨⟨rfl, rfl, ?_⟩, .alike paired⟩
    simp only [report, namedStores]
    induction w.storeNames with
    | nil => exact .nil
    | cons n names ih =>
      rcases pairedAt paired n.2 with ⟨none, none'⟩ | ⟨s, t, found, found', same⟩
      · simpa [List.filterMap_cons, none, none'] using ih
      · simpa [List.filterMap_cons, found, found'] using ⟨same, ih⟩

theorem serveMirrors {α : Type} {P : α → Prop} {x : Service → Host → Action α}
    (mirrors : w.Mirrors v)
    (name : String) (parallel : ∀ svc h, (x svc h).Parallel P) :
    (w.serve name x).1 = (v.serve name x).1 ∧ (w.serve name x).2.Mirrors (v.serve name x).2 := by
  cases mirrors with
  | @alike stores paired =>
    unfold serve
    cases find name w.services with
    | error e => exact ⟨rfl, .alike paired⟩
    | ok b =>
      rcases pairedAt paired b.store with ⟨none, none'⟩ | ⟨s, t, found, found', same⟩
      · simp only [none, none']
        exact ⟨trivial, .alike paired⟩
      · cases held : w.validators[b.validator]? with
        | none =>
          simp only [found, found', held]
          exact ⟨trivial, .alike paired⟩
        | some d =>
          obtain ⟨answer, after, -⟩ :=
            parallel b.service w.host ⟨s, d, []⟩ ⟨t, d, []⟩ ⟨same, rfl, rfl⟩
          simp only [found, found', held, host] at answer after ⊢
          refine ⟨answer, ?_⟩
          rw [after.validator, after.log]
          have put : (w.putStore b.store _).Mirrors _ := mirrorsPut (.alike paired) b.store after.store
          exact mirrorsNote (mirrorsValidator put _ _) _

theorem servingMirrors {α : Type} {P : α → Prop} {x : Service → Host → Action α}
    (mirrors : w.Mirrors v)
    (name : String) (f : α → Answer) (parallel : ∀ svc h, (x svc h).Parallel P) :
    (w.serving name x f).1 = (v.serving name x f).1 ∧
      (w.serving name x f).2.Mirrors (v.serving name x f).2 := by
  obtain ⟨answer, after⟩ := serveMirrors mirrors name parallel
  exact ⟨congrArg (Except.map f) answer, after⟩

theorem partyMirrors {α : Type} {P : α → Prop} {x : Service → Host → Option Party → Action α}
    (mirrors : w.Mirrors v) (name : String) (who : Json) (f : α → Answer)
    (parallel : ∀ svc h p, (x svc h p).Parallel P) :
    (w.servingParty name who x f).1 = (v.servingParty name who x f).1 ∧
      (w.servingParty name who x f).2.Mirrors (v.servingParty name who x f).2 := by
  unfold servingParty
  cases readParty who with
  | error e => exact ⟨rfl, mirrors⟩
  | ok p => exact servingMirrors mirrors name f fun svc h => parallel svc h p

theorem getMirrors (mirrors : w.Mirrors v) (name ns : String) :
    (w.getRecord name ns).1 = (v.getRecord name ns).1 ∧
      (w.getRecord name ns).2.Mirrors (v.getRecord name ns).2 := by
  unfold getRecord
  rcases mirrorsStore mirrors name with ⟨e, missing, missing'⟩ | ⟨i, s, t, found, found', same⟩
  · rw [missing, missing']
    exact ⟨rfl, mirrors⟩
  · obtain ⟨answer, after, -⟩ :=
      loadParallel w.host ns ⟨s, .fresh, []⟩ ⟨t, .fresh, []⟩ ⟨same, rfl, rfl⟩
    have host : v.host = w.host := by cases mirrors; rfl
    rw [found, found']
    simp only [host, answer, after.log]
    exact ⟨trivial, mirrorsNote (mirrorsPut mirrors i after.store) _⟩

theorem performMirrors {a : Act} (serving : a.isServing = true) (mirrors : w.Mirrors v) :
    (w.perform a).1 = (v.perform a).1 ∧ (w.perform a).2.Mirrors (v.perform a).2 := by
  cases a with
  | establish name r =>
    simp only [perform]
    cases r.request with
    | error e => exact ⟨rfl, mirrors⟩
    | ok r => exact servingMirrors mirrors name _ fun svc h => svc.establishParallel h r
  | update name sender r =>
    simp only [perform]
    cases readParty sender with
    | error e => exact ⟨rfl, mirrors⟩
    | ok p =>
      cases r.request with
      | error e => exact ⟨rfl, mirrors⟩
      | ok r => exact servingMirrors mirrors name _ fun svc h => svc.updateParallel h p r
  | query name => exact servingMirrors mirrors name _ Service.surveyParallel
  | isAdmin name who => exact partyMirrors mirrors name who _ Service.isAdminParallel
  | isProposed name who => exact partyMirrors mirrors name who _ Service.isProposedParallel
  | assertAdmin name who => exact partyMirrors mirrors name who _ Service.assertAdminParallel
  | assertProposed name who => exact partyMirrors mirrors name who _ Service.assertProposedParallel
  | get name ns => exact getMirrors mirrors name ns
  | _ => cases serving

end World

theorem outcomeFailure {o o' : Outcome} (mirrors : o.Mirrors o') : o.failure? = o'.failure? := by
  cases mirrors with
  | act reports => simp only [Outcome.failure?, reports.answer]
  | block reports => simp only [Outcome.failure?, reports.answer]

section
variable {w v : World}

theorem mirrorsScope (mirrors : w.Mirrors v) (active : String) :
    World.Mirrors { w with around := { w.around with active := active } }
      { v with around := { v.around with active := active } } := by
  cases mirrors with
  | alike paired => exact .alike paired

theorem mirrorsBack (mirrors : w.Mirrors v) (failure : Option Failure) (i : Nat) (ns : String)
    {s t : Store} (before : s.Mirrors t) :
    World.Mirrors
      (match failure, w.stores[i]? with
        | some _, some now => w.putStore i (now.rollback s ns)
        | _, _ => w)
      (match failure, v.stores[i]? with
        | some _, some now => v.putStore i (now.rollback t ns)
        | _, _ => v) := by
  cases failure with
  | none => exact mirrors
  | some e =>
    cases mirrors with
    | @alike stores paired =>
      rcases pairedAt paired i with ⟨none, none'⟩ | ⟨now, now', found, found', same⟩
      · simp only [none, none']
        exact .alike paired
      · simp only [found, found']
        exact mirrorsPut (.alike paired) i (Store.mirrorsRollback ns same before)

end

-- A step may sit inside blocks and behind other steps, so the two worlds vary with the induction.
mutual

theorem runMirrors {w v : World} (mirrors : w.Mirrors v) : (s : Step) → s.isServing = true →
    (run w s).1.Mirrors (run v s).1 ∧ (run w s).2.Mirrors (run v s).2
  | .act a, serving => by
    obtain ⟨answer, after⟩ := performMirrors serving mirrors
    simp only [run, answer]
    obtain ⟨reports, world⟩ := mirrorsReport after (v.perform a).1
    exact ⟨.act reports, world⟩
  | .transaction name ns ending steps, serving => by
    rw [Step.isServing] at serving
    rcases mirrorsStore mirrors name with ⟨e, missing, missing'⟩ | ⟨i, s, t, found, found', same⟩
    · simp only [run, missing, missing']
      obtain ⟨reports, world⟩ := mirrorsReport mirrors (.error e)
      exact ⟨.block reports none .nil, world⟩
    · have entered := mirrorsPut mirrors i (Store.mirrorsEnter same)
      obtain ⟨inner, inside, after⟩ := runAllMirrors ending.propagates entered steps serving
      simp only [run, found, found', inside]
      obtain ⟨reports, world⟩ := mirrorsReport (mirrorsBack after _ i ns same) _
      exact ⟨.block reports none inner, world⟩
  | .scope id ending steps, serving => by
    rw [Step.isServing] at serving
    have fresh : v.fresh = w.fresh ∧ v.around = w.around := by cases mirrors; exact ⟨rfl, rfl⟩
    have entered := mirrorsScope mirrors (Audit.Correlation.enter w.fresh id)
    obtain ⟨inner, inside, after⟩ := runAllMirrors ending.propagates entered steps serving
    simp only [run, fresh] at inner inside after ⊢
    simp only [inside]
    obtain ⟨reports, world⟩ := mirrorsReport (mirrorsScope after w.around.active) _
    exact ⟨.block reports _ inner, world⟩

theorem runAllMirrors {w v : World} (stops : Bool) (mirrors : w.Mirrors v) :
    (steps : List Step) → allServing steps = true →
    (runAll stops w steps).1.Forall₂ Outcome.Mirrors (runAll stops v steps).1 ∧
      (runAll stops w steps).2.1 = (runAll stops v steps).2.1 ∧
      (runAll stops w steps).2.2.Mirrors (runAll stops v steps).2.2
  | [], _ => ⟨.nil, rfl, mirrors⟩
  | s :: rest, serving => by
    rw [allServing, Bool.and_eq_true] at serving
    obtain ⟨outcome, after⟩ := runMirrors mirrors s serving.1
    obtain ⟨outcomes, failure, world⟩ := runAllMirrors stops after rest serving.2
    have failed := outcomeFailure outcome
    simp only [runAll, failed]
    split
    · exact ⟨.cons outcome .nil, rfl, after⟩
    · exact ⟨.cons outcome outcomes, failure, world⟩

end

/-- A serving program tells the same over empty stores of bytes and over empty stores of records, stops
over the same failure, and leaves mirrored stores; and so does every single visit to mirrored stores. -/
theorem bytesRefineRecords (stops : Bool) (w : World) (steps : List Step)
    (serving : allServing steps = true) :
    (runAll stops (w.storing (.bytes .empty)) steps).1.Forall₂ Outcome.Mirrors
        (runAll stops (w.storing (.plain .empty)) steps).1 ∧
      (runAll stops (w.storing (.bytes .empty)) steps).2.1 =
        (runAll stops (w.storing (.plain .empty)) steps).2.1 ∧
      (runAll stops (w.storing (.bytes .empty)) steps).2.2.Mirrors
        (runAll stops (w.storing (.plain .empty)) steps).2.2 ∧
      ∀ (v : Visit) (s t : Store), s.Mirrors t →
        v.answer s = v.answer t ∧ (v.after s).Mirrors (v.after t) := by
  obtain ⟨outcomes, failure, world⟩ := runAllMirrors stops (storingMirrors w) steps serving
  exact ⟨outcomes, failure, world, fun v s t mirrors => v.visitMirrors mirrors⟩

def stage : World :=
  { World.start [] "" "" with
    stores := [.bytes .empty]
    storeNames := [("s", 0)]
    validators := [.fresh]
    services :=
      [("xyz", ⟨⟨"xyz", .ofService .captured Service.logName Audit.defaultComponent "xyz"⟩, 0, 0⟩)] }

def undone : List Step :=
  [.act (.establish "xyz" (.direct (.setInitialAdmin (.string "\"\x00😀")))),
    .transaction "s" "xyz" ⟨false, some "stop"⟩
      [.act (.update "xyz" (.string "\"\x00😀") (.direct .abolishAdminRole))]]

theorem undoneKeepsAdmin :
    ∃ b r, (runAll false (stage.storing (.bytes .empty)) undone).2.2.stores = [.bytes b] ∧
      b.get "xyz" = .ok (some r) ∧ r.admin = some (.named "\"\x00😀") := by
  obtain ⟨-, -, world, -⟩ := bytesRefineRecords false stage undone rfl
  obtain ⟨p, r, records, held, admin⟩ : ∃ p r,
      (runAll false (stage.storing (.plain .empty)) undone).2.2.stores = [.plain p] ∧
      p.cell? "xyz" = some r ∧ r.admin = some (.named "\"\x00😀") :=
    ⟨_, _, rfl, rfl, rfl⟩
  generalize (runAll false (stage.storing (.plain .empty)) undone).2.2 = after at world records
  cases world with
  | @alike stores paired =>
    obtain rfl : stores = [.plain p] := records
    generalize (runAll false (stage.storing (.bytes .empty)) undone).2.2.stores = kept at paired
    cases paired with
    | cons mirrors none =>
      cases none
      cases mirrors with
      | alike reads writes decoded regular => exact ⟨_, r, rfl, held ▸ decoded "xyz", admin⟩

end Handover.Session

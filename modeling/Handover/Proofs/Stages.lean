import Handover.Proofs.FailingStore

/-!
The stages of a change on a store of records that may be told to fail, under a validator that keeps lists.
Each stage has a fault of its own, told from the call, the store and the refused texts alone; and the
service does one thing for each way in which the stages come out.
-/
namespace Handover

inductive Stage
  | family
  | reading
  | abolition
  | guard
  | validation
  | writing
  deriving DecidableEq

namespace Stage

def all : List Stage := [.family, .reading, .abolition, .guard, .validation, .writing]

def before (k : Stage) : List Stage := all.takeWhile (· ≠ k)

theorem beforeSplit {front back : List Stage} {k : Stage} (split : all = front ++ k :: back)
    (apart : ∀ j ∈ front, j ≠ k) : k.before = front := by
  have passed : ∀ j ∈ front, decide (j ≠ k) = true := fun j member => decide_eq_true (apart j member)
  rw [before, split, List.takeWhile_append_of_pos passed, List.takeWhile_cons_of_neg (by simp),
    List.append_nil]

theorem beforeIff (j k : Stage) : j ∈ k.before ↔ ∀ i ∈ j.before ++ [j], i ∈ k.before := by
  cases j <;> cases k <;> decide

theorem beforeOr (j k : Stage) : j ∈ k.before ∨ k ∈ j.before ++ [j] := by
  cases j <;> cases k <;> decide

theorem memberAll (k : Stage) : k ∈ all := by
  cases k <;> decide

end Stage

namespace Mutation

def guardFault? (st : State) : Mutation → Option Fault
  | .establish _ => if st.admin = none then none else some .alreadySet
  | .update caller .acceptProposed =>
    if caller ≠ none ∧ st.proposed = caller then none else some .notProposed
  | .update caller _ => if caller ≠ none ∧ st.admin = caller then none else some .notAdmin

end Mutation

def textFault? (refused : List Json) : Json → Option Fault
  | .string s =>
    if s = "" then some (.identity (.string s) .empty)
    else if .string s ∈ refused then some (.identity (.string s) .listed)
    else none
  | _ => none

namespace Call

section
variable (c : Call) (p : PlainStore) (refused : List Json)

def fault? : Stage → Option Fault
  | .family =>
    if c.asked.supported then none
    else some (.unsupported c.asked.operation c.asked.request.kind)
  | .reading => if p.failsGet then some (.storage c.service.ns .unreadable) else none
  | .abolition => if State.ofRecord (p.cell? c.service.ns) = .abolished then some .abolished else none
  | .guard => c.asked.guardFault? (State.ofRecord (p.cell? c.service.ns))
  | .validation => c.asked.request.payload?.bind (textFault? refused)
  | .writing => if p.failsSet then some (.storage c.service.ns .unwritable) else none

def passes (k : Stage) : Prop := ∀ j ∈ k.before ++ [k], c.fault? p refused j = none

instance (k : Stage) : Decidable (c.passes p refused k) := List.decidableBAll _ _

def staged : Except Failure State :=
  match Stage.all.findSome? (c.fault? p refused) with
  | some f => .error (.fault f)
  | none => .ok c.asked.leaves

structure StopsAt (k : Stage) (f : Fault) : Prop where
  fails : c.fault? p refused k = some f
  earlier : ∀ j ∈ k.before, c.fault? p refused j = none

end

end Call

namespace PlainStore

variable {p : PlainStore}

def visited (p : PlainStore) : PlainStore := { p with gets := p.gets + 1, opened := p.opened + 1 }

theorem rollbackVisited (p : PlainStore) (ns : String) :
    (Store.plain p.visited).rollback (.plain p) ns = .plain p.visited := by
  simp only [Store.rollback, visited, cell?, Table.assignGet]

end PlainStore

namespace Service

variable {svc : Service} {h : Host} {p : PlainStore} {v v' : Validator} {log : List Audit.Line}
  {d : Validator → State → Except Failure State × Validator}

theorem stateUnread (unread : p.failsGet = true) :
    svc.state h ⟨.plain p, v, log⟩ =
      (.error (.fault (.storage svc.ns .unreadable)),
        ⟨.plain { p with gets := p.gets + 1 }, v, log⟩) := by
  have loaded : h.load svc.ns ⟨.plain p, v, log⟩ =
      (.error (.fault (.storage svc.ns .unreadable)),
        ⟨.plain { p with gets := p.gets + 1 }, v, log ++ []⟩) := by
    simp only [Host.load, Store.get, PlainStore.get, unread, if_true]
    rfl
  rw [List.append_nil] at loaded
  rw [state, Action.bindError _ loaded]

theorem stateRead (read : p.failsGet = false) :
    svc.state h ⟨.plain p, v, log⟩ =
      (.ok (State.ofRecord (p.cell? svc.ns)), ⟨.plain { p with gets := p.gets + 1 }, v, log⟩) := by
  have loaded : h.load svc.ns ⟨.plain p, v, log⟩ =
      (.ok (p.cell? svc.ns), ⟨.plain { p with gets := p.gets + 1 }, v, log⟩) := by
    simp only [Host.load, Store.get, PlainStore.get, read, Bool.false_eq_true, if_false]
  rw [state, Action.bindOk _ loaded]
  rfl

theorem mutateUnread (unread : p.failsGet = true) :
    svc.mutate h d ⟨.plain p, v, log⟩ =
      (.error (.fault (.storage svc.ns .unreadable)), ⟨.plain p.visited, v, log⟩) := by
  have loaded : svc.state h ⟨(Store.plain p).enter, v, log⟩ =
      (.error (.fault (.storage svc.ns .unreadable)), ⟨.plain p.visited, v, log⟩) :=
    stateUnread (p := { p with opened := p.opened + 1 }) unread
  rw [mutate, Action.transact, Action.bindError _ loaded]
  exact congrArg (fun store => (_, (⟨store, v, log⟩ : Site))) (p.rollbackVisited svc.ns)

section
variable (read : p.failsGet = false) {s : State} (held : State.ofRecord (p.cell? svc.ns) = s)
include read held

theorem stateEntered :
    svc.state h ⟨(Store.plain p).enter, v, log⟩ = (.ok s, ⟨.plain p.visited, v, log⟩) := by
  have loaded : svc.state h ⟨(Store.plain p).enter, v, log⟩ =
      (.ok (State.ofRecord (p.cell? svc.ns)), ⟨.plain p.visited, v, log⟩) :=
    stateRead (p := { p with opened := p.opened + 1 }) read
  rw [loaded, held]

theorem mutateDenied {e : Failure} (judged : d v s = (.error e, v')) :
    svc.mutate h d ⟨.plain p, v, log⟩ = (.error e, ⟨.plain p.visited, v', log⟩) := by
  have decided : Action.decide (fun v => d v s) ⟨.plain p.visited, v, log⟩ =
      (.error e, ⟨.plain p.visited, v', log⟩) := by
    rw [Action.decide, judged]
  rw [mutate, Action.transact, Action.bindOk _ (stateEntered read held), Action.bindError _ decided]
  exact congrArg (fun store => (_, (⟨store, v', log⟩ : Site))) (p.rollbackVisited svc.ns)

section
variable {next : State} {r : Record} (judged : d v s = (.ok next, v')) (flat : next.toRecord = .ok r)
include judged flat

theorem mutateUnwritten (unwritten : p.failsSet = true) :
    svc.mutate h d ⟨.plain p, v, log⟩ =
      (.error (.fault (.storage svc.ns .unwritable)), ⟨.plain p.visited, v', log⟩) := by
  have decided : Action.decide (fun v => d v s) ⟨.plain p.visited, v, log⟩ =
      (.ok next, ⟨.plain p.visited, v', log⟩) := by
    rw [Action.decide, judged]
  have failed : next.keep svc.ns ⟨.plain p.visited, v', log⟩ =
      (.error (.fault (.storage svc.ns .unwritable)), ⟨.plain p.visited, v', log⟩) := by
    simp only [State.keep, flat, Store.set, PlainStore.set, PlainStore.visited, unwritten, if_true,
      Except.map]
  rw [mutate, Action.transact, Action.bindOk _ (stateEntered read held), Action.bindOk _ decided,
    Action.bindError _ failed]
  exact congrArg (fun store => (_, (⟨store, v', log⟩ : Site))) (p.rollbackVisited svc.ns)

theorem mutateWritten (written : p.failsSet = false) :
    svc.mutate h d ⟨.plain p, v, log⟩ =
      (.ok next, ⟨.plain { p.visited.seed svc.ns r with sets := p.sets + 1 }, v', log⟩) := by
  have decided : Action.decide (fun v => d v s) ⟨.plain p.visited, v, log⟩ =
      (.ok next, ⟨.plain p.visited, v', log⟩) := by
    rw [Action.decide, judged]
  have kept : next.keep svc.ns ⟨.plain p.visited, v', log⟩ =
      (.ok (), ⟨.plain { p.visited.seed svc.ns r with sets := p.sets + 1 }, v', log⟩) := by
    simp only [State.keep, flat, Store.set, PlainStore.set, PlainStore.visited, written,
      Bool.false_eq_true, if_false, Except.map]
  rw [mutate, Action.transact, Action.bindOk _ (stateEntered read held), Action.bindOk _ decided,
    Action.bindOk _ kept]
  rfl

end

end

end Service

namespace State

variable {s : State} {caller : Option Party}

theorem notPlaced {held : Option Party} (other : ¬ (caller ≠ none ∧ held = caller)) :
    held = none ∨ held ≠ caller := by
  by_cases same : held = caller
  · exact Or.inl (Decidable.by_contra fun somebody => other ⟨same ▸ somebody, same⟩)
  · exact Or.inr same

theorem placed {held : Option Party} (own : caller ≠ none ∧ held = caller) :
    ¬ (held = none ∨ held ≠ caller) := by
  obtain ⟨somebody, rfl⟩ := own
  simpa using somebody

theorem requirePlaced (own : caller ≠ none ∧ s.admin = caller) : s.requireAdmin caller = .ok caller := by
  rw [requireAdmin, if_neg (placed own), own.2]

end State

theorem ifSome {α : Type} {p : Prop} [Decidable p] {a b : α}
    (found : (if p then none else some a) = some b) : ¬ p ∧ a = b := by
  by_cases held : p
  · rw [if_pos held] at found
    cases found
  · rw [if_neg held] at found
    exact ⟨held, Option.some.inj found⟩

theorem ifNone {α : Type} {p : Prop} [Decidable p] {a : α}
    (absent : (if p then none else some a) = none) : p := by
  by_cases held : p
  · exact held
  · rw [if_neg held] at absent
    cases absent

theorem listedText (refused seen : List Json) (s : String) :
    (Validator.listed refused seen).validate (.string s) =
      ((textFault? refused (.string s)).elim (.ok ⟨s⟩) fun f => .error (.fault f),
        .listed refused (seen ++ [.string s])) := by
  have same (j : Json) : (Json.string s).sameScalar j = true ↔ Json.string s = j := by
    cases j <;> simp [Json.sameScalar, Json.toInt?]
  have member : (refused.any (Json.string s).sameScalar = true) = (Json.string s ∈ refused) := by
    simp only [List.any_eq_true, same, exists_eq_right']
  have unset : (!(Json.string s).isSet) = decide (s = "") := by
    rw [Json.isSet, bne, Bool.not_not, Bool.beq_eq_decide_eq]
  simp only [Validator.validate, Validator.checkListed, textFault?, Validator.requireScalar, member, unset,
    decide_eq_true_eq]
  split
  · rfl
  split <;> rfl

section
variable {m : Mutation} (inside : m.supported = true) {v : Validator} {s : State}
include inside

theorem judgeAbolished : m.judge v .abolished = (.error (.fault .abolished), v) := by
  cases m <;> rfl

section
variable (live : s ≠ .abolished)
include live

theorem judgeDenied {f : Fault} (denied : m.guardFault? s = some f) :
    m.judge v s = (.error (.fault f), v) := by
  cases m with
  | establish r =>
    obtain ⟨held, rfl⟩ := ifSome denied
    change State.start _ s r = _
    unfold State.start State.planStart
    rw [if_neg live, if_pos held]
    rfl
  | update caller r =>
    change State.change _ s caller r = _
    unfold State.change State.planChange
    rw [if_neg live]
    cases r with
    | acceptProposed =>
      obtain ⟨other, rfl⟩ := ifSome denied
      change carryOut v (if _ then _ else _) = _
      rw [if_pos (State.notPlaced other)]
      rfl
    | setInitialAdmin raw => cases inside
    | other value => cases inside
    | _ =>
      obtain ⟨other, rfl⟩ := ifSome denied
      change carryOut v ((s.requireAdmin caller).map _) = _
      rw [State.requireAdmin, if_pos (State.notPlaced other)]
      rfl

variable (allowed : m.guardFault? s = none)
include allowed

theorem judgeSettled (bare : m.request.payload? = none) : m.judge v s = (.ok m.leaves, v) := by
  cases m with
  | establish r =>
    change State.start _ s r = _
    unfold State.start State.planStart
    rw [if_neg live, if_neg (not_not.mpr (ifNone allowed))]
    cases r with
    | abolishAdminRole => rfl
    | setInitialAdmin raw => cases bare
    | _ => cases inside
  | update caller r =>
    change State.change _ s caller r = _
    unfold State.change State.planChange
    rw [if_neg live]
    cases r with
    | acceptProposed =>
      change carryOut v (if _ then _ else _) = _
      rw [if_neg (State.placed (ifNone allowed))]
      rfl
    | clearProposed =>
      change carryOut v ((s.requireAdmin caller).map _) = _
      rw [State.requirePlaced (ifNone allowed)]
      rfl
    | abolishAdminRole =>
      change carryOut v ((s.requireAdmin caller).map _) = _
      rw [State.requirePlaced (ifNone allowed)]
      rfl
    | proposeNewAdmin raw => cases bare
    | _ => cases inside

theorem judgeValidated {text : String} (shown : m.request.payload? = some (.string text))
    (refused seen : List Json) :
    m.judge (.listed refused seen) s =
      ((textFault? refused (.string text)).elim (.ok m.leaves) fun f => .error (.fault f),
        .listed refused (seen ++ [.string text])) := by
  have carried (next : Identity → State) (named : next ⟨text⟩ = m.leaves) :
      (Plan.validate (.string text) next).carryOut (.listed refused seen) =
        ((textFault? refused (.string text)).elim (.ok m.leaves) fun f => .error (.fault f),
          .listed refused (seen ++ [.string text])) := by
    rw [Plan.carryOut, listedText, ← named]
    cases textFault? refused (.string text) <;> rfl
  cases m with
  | establish r =>
    change State.start _ s r = _
    unfold State.start State.planStart
    rw [if_neg live, if_neg (not_not.mpr (ifNone allowed))]
    cases r with
    | setInitialAdmin raw =>
      cases shown
      exact carried _ rfl
    | proposeNewAdmin raw => cases inside
    | _ => cases shown
  | update caller r =>
    change State.change _ s caller r = _
    unfold State.change State.planChange
    rw [if_neg live]
    cases r with
    | proposeNewAdmin raw =>
      cases shown
      change carryOut _ ((s.requireAdmin caller).map _) = _
      rw [State.requirePlaced (ifNone allowed)]
      exact carried _ rfl
    | setInitialAdmin raw => cases inside
    | _ => cases shown

end

end

theorem leavesFlat {m : Mutation} {s : State} (inside : m.supported = true)
    (allowed : m.guardFault? s = none) : ∃ r, m.leaves.toRecord = .ok r := by
  cases m with
  | establish r =>
    cases r with
    | setInitialAdmin raw => exact ⟨_, rfl⟩
    | abolishAdminRole => exact ⟨_, rfl⟩
    | _ => cases inside
  | update caller r =>
    cases r with
    | proposeNewAdmin raw =>
      have somebody : caller ≠ none := (ifNone allowed).1
      have flat : (State.offered caller (Mutation.party? raw)).toRecord =
          Record.make (.bool false) caller (Mutation.party? raw) := rfl
      rw [Mutation.leaves, flat, Record.make, dif_neg (by simp [Json.isSet]),
        dif_neg fun lone => somebody lone.2]
      exact ⟨_, rfl⟩
    | clearProposed => exact ⟨_, rfl⟩
    | acceptProposed => exact ⟨_, rfl⟩
    | abolishAdminRole => exact ⟨_, rfl⟩
    | _ => cases inside

end Handover

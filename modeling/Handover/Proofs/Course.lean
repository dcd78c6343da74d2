import Handover.Proofs.Settlement

/-!
Courses of calls on a store that starts empty, by any services on any namespaces. The history of a
namespace is what was taken there, in order; refused calls and calls elsewhere are not part of it.
After every course each namespace holds the state to which its history leads.
-/
namespace Handover

inductive Leads : List Mutation → State → Prop
  | nil : Leads [] .vacant
  | snoc {past : List Mutation} {s next : State} {m : Mutation}
    (led : Leads past s) (moved : Moves s m next) : Leads (past ++ [m]) next

theorem leadsFilled {past : List Mutation} {s : State} (led : Leads past s) : s.Filled := by
  cases led with
  | nil => exact .vacant
  | snoc _ moved => exact movesFilled moved

theorem leadsLast {past : List Mutation} {s : State} (led : Leads past s) :
    s = past.getLast?.elim .vacant Mutation.leaves := by
  cases led with
  | nil => rfl
  | snoc _ moved => rw [List.getLast?_concat]; exact movesLeaves moved

/-- A call whose mutation is kept. -/
def Call.Taken (c : Call) (s : Store) : Prop := ∃ next, c.outcome s = .ok next

theorem takenOfAnswered {c : Call} {s : Store} {r : Reply} (answered : c.answer s = .ok r) :
    c.Taken s := by
  rw [Call.answerOutcome, Call.answerTo] at answered
  split at answered
  · cases settled : c.outcome s with
    | ok next => exact ⟨next, settled⟩
    | error e => rw [settled] at answered; cases answered
  · cases answered

namespace Course

def added (ns : String) (s : Store) (c : Call) : List Mutation :=
  match c.outcome s with
  | .ok _ => if c.service.ns = ns then [c.asked] else []
  | .error _ => []

def historyFrom (ns : String) (s : Store) : List Call → List Mutation
  | [] => []
  | c :: rest => added ns s c ++ historyFrom ns (c.after s) rest

def runFrom (s : Store) (calls : List Call) : Store := calls.foldl (fun s c => c.after s) s

def start : Store := .bytes .empty

def run (calls : List Call) : Store := runFrom start calls

def history (ns : String) (calls : List Call) : List Mutation := historyFrom ns start calls

theorem runAppend (calls more : List Call) : run (calls ++ more) = runFrom (run calls) more := by
  simp only [run, runFrom, List.foldl_append]

theorem historyFromAppend (ns : String) (s : Store) (calls more : List Call) :
    historyFrom ns s (calls ++ more) = historyFrom ns s calls ++ historyFrom ns (runFrom s calls) more := by
  induction calls generalizing s with
  | nil => rfl
  | cons c rest ih =>
    rw [List.cons_append, historyFrom, historyFrom, ih, List.append_assoc]
    rfl

theorem historySnoc (ns : String) (calls : List Call) (c : Call) :
    history ns (calls ++ [c]) = history ns calls ++ added ns (run calls) c := by
  rw [history, historyFromAppend, historyFrom, historyFrom, List.append_nil]
  rfl

def Consistent (s : Store) (past : String → List Mutation) : Prop :=
  ∃ b, s = .bytes b ∧ ∀ ns, ∃ st, b.stateAt ns = .ok st ∧ Leads (past ns) st

theorem startConsistent : Consistent start fun _ => [] :=
  ⟨.empty, rfl, fun ns => ⟨.vacant, ByteStore.stateAtEmpty ns, .nil⟩⟩

theorem stepConsistent {s : Store} {past : String → List Mutation} (c : Call)
    (consistent : Consistent s past) : Consistent (c.after s) fun ns => past ns ++ added ns s c := by
  obtain ⟨b, rfl, holds⟩ := consistent
  obtain ⟨st, known, led⟩ := holds c.service.ns
  -- the call is decided in its own namespace; the others are followed through the frame
  rcases Call.settles (leadsFilled led) known with
    ⟨e, refused, same⟩ | ⟨next, t, moved, kept, stored, read, frame⟩
  · refine ⟨b, same, fun ns => ?_⟩
    obtain ⟨held, found, before⟩ := holds ns
    refine ⟨held, found, ?_⟩
    simp only [added, refused, List.append_nil]
    exact before
  · refine ⟨t, stored, fun ns => ?_⟩
    by_cases own : c.service.ns = ns
    · subst own
      refine ⟨next, read, ?_⟩
      simp only [added, kept, if_true]
      exact led.snoc moved
    · obtain ⟨held, found, before⟩ := holds ns
      refine ⟨held, (ByteStore.stateAtCells (frame ns (Ne.symm own))).trans found, ?_⟩
      simp only [added, kept, if_neg own, List.append_nil]
      exact before

theorem runConsistent {s : Store} {past : String → List Mutation} (calls : List Call)
    (consistent : Consistent s past) :
    Consistent (runFrom s calls) fun ns => past ns ++ historyFrom ns s calls := by
  induction calls generalizing s past with
  | nil =>
    simp only [historyFrom, List.append_nil]
    exact consistent
  | cons c rest ih =>
    -- the past has to vary with the induction: the first call adds to it
    have later := ih (stepConsistent c consistent)
    simp only [List.append_assoc] at later
    exact later

theorem consistent (calls : List Call) : Consistent (run calls) fun ns => history ns calls := by
  have whole := runConsistent calls startConsistent
  simp only [List.nil_append] at whole
  exact whole

theorem reached (calls : List Call) (ns : String) :
    ∃ st, (run calls).stateAt ns = .ok st ∧ Leads (history ns calls) st := by
  obtain ⟨b, same, holds⟩ := consistent calls
  obtain ⟨st, known, led⟩ := holds ns
  exact ⟨st, by rw [same]; exact known, led⟩

theorem leadsReached {calls : List Call} {ns : String} {st : State}
    (known : (run calls).stateAt ns = .ok st) : Leads (history ns calls) st := by
  obtain ⟨held, found, led⟩ := reached calls ns
  have same : held = st := Except.ok.inj (found.symm.trans known)
  subst same
  exact led

theorem runBytes (calls : List Call) : ∃ b, run calls = .bytes b := by
  obtain ⟨b, same, -⟩ := consistent calls
  exact ⟨b, same⟩

section
variable {calls : List Call} {st next : State}

theorem outcomeReached (c : Call) (known : (run calls).stateAt c.service.ns = .ok st) :
    c.outcome (run calls) = c.verdict st := by
  have filled := leadsFilled (leadsReached known)
  obtain ⟨b, same⟩ := runBytes calls
  rw [same] at known ⊢
  exact Call.outcomeVerdict filled known

theorem runRefused {c : Call} {e : Failure} (known : (run calls).stateAt c.service.ns = .ok st)
    (unfavourable : c.verdict st = .error e) : run (calls ++ [c]) = run calls := by
  have refused : c.outcome (run calls) = .error e := (outcomeReached c known).trans unfavourable
  obtain ⟨b, same⟩ := runBytes calls
  rw [same] at refused
  rw [runAppend, same]
  exact Call.refusedKeepsBytes refused

theorem runTaken {c : Call} (known : (run calls).stateAt c.service.ns = .ok st)
    (favourable : c.verdict st = .ok next) :
    (run (calls ++ [c])).stateAt c.service.ns = .ok next ∧
      history c.service.ns (calls ++ [c]) = history c.service.ns calls ++ [c.asked] := by
  have kept : c.outcome (run calls) = .ok next := (outcomeReached c known).trans favourable
  have filled := leadsFilled (leadsReached known)
  constructor
  · obtain ⟨b, same⟩ := runBytes calls
    rw [same] at known
    have stored := (Call.mutationKept filled known favourable).2
    have after : run (calls ++ [c]) = .bytes (b.plant c.service.ns next.form.toBytes) := by
      rw [runAppend, same]
      exact stored
    rw [after]
    exact b.stateAtPlant c.service.ns (movesFilled (Call.verdictMoves filled favourable))
  · rw [historySnoc]
    simp only [added, kept, if_true]

theorem runElsewhere {ns : String} (c : Call) (apart : ns ≠ c.service.ns) :
    (run (calls ++ [c])).bytes? ns = (run calls).bytes? ns ∧
      (run (calls ++ [c])).stateAt ns = (run calls).stateAt ns := by
  obtain ⟨b, same, holds⟩ := consistent calls
  obtain ⟨own, found, led⟩ := holds c.service.ns
  have stepped : run (calls ++ [c]) = c.after (.bytes b) := by
    rw [runAppend, same]
    rfl
  rw [stepped, same]
  rcases Call.settles (leadsFilled led) found with
    ⟨e, -, unchanged⟩ | ⟨moved, t, -, -, stored, -, frame⟩
  · rw [unchanged]
    exact ⟨rfl, rfl⟩
  · rw [stored]
    exact ⟨frame ns apart, ByteStore.stateAtCells (frame ns apart)⟩

theorem nextMove {ns : String} (c : Call) (known : (run calls).stateAt ns = .ok st)
    (later : (run (calls ++ [c])).stateAt ns = .ok next) :
    (next = st ∧ added ns (run calls) c = []) ∨
      (c.service.ns = ns ∧ c.outcome (run calls) = .ok next ∧ Moves st c.asked next) := by
  by_cases here : c.service.ns = ns
  · subst here
    have settled := outcomeReached c known
    cases decided : c.verdict st with
    | error e =>
      rw [runRefused known decided] at later
      rw [decided] at settled
      have equal : next = st := Except.ok.inj (later.symm.trans known)
      exact Or.inl ⟨equal, by simp only [added, settled]⟩
    | ok moved =>
      have equal : moved = next := Except.ok.inj ((runTaken known decided).1.symm.trans later)
      subst equal
      have filled := leadsFilled (leadsReached known)
      exact Or.inr ⟨rfl, settled.trans decided, Call.verdictMoves filled decided⟩
  · rw [(runElsewhere c (Ne.symm here)).2] at later
    have equal : next = st := Except.ok.inj (later.symm.trans known)
    have nothing : added ns (run calls) c = [] := by
      unfold added
      split
      · rw [if_neg here]
      · rfl
    exact Or.inl ⟨equal, nothing⟩

end

end Course

end Handover

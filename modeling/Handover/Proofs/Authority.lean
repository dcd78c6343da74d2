import Handover.Proofs.Confined
import Handover.Proofs.Course

/-!
Where authority comes from. Whoever holds a place of a role was put there by a mutation that named them and
was kept. So a sender whom none named has every update refused, and the course without those updates is
the same course for everybody else.
-/
namespace Handover

def Mutation.named? : Mutation → Option Identity
  | .establish (.setInitialAdmin (.string s)) | .update _ (.proposeNewAdmin (.string s)) => some ⟨s⟩
  | _ => none

theorem leadsNamed {past : List Mutation} {s : State} {i : Identity} (led : Leads past s)
    (placed : s.admin = some (.identity i) ∨ s.proposed = some (.identity i)) :
    ∃ m ∈ past, m.named? = some i := by
  induction led with
  | nil => rcases placed with held | named <;> contradiction
  | @snoc past s next m led moved ih =>
    have before (place : s.admin = some (.identity i) ∨ s.proposed = some (.identity i)) :
        ∃ m' ∈ past ++ [m], m'.named? = some i := by
      obtain ⟨m', member, named⟩ := ih place
      exact ⟨m', List.mem_append_left _ member, named⟩
    have now (named : m.named? = some i) : ∃ m' ∈ past ++ [m], m'.named? = some i :=
      ⟨m, by simp, named⟩
    cases moved with
    | begin admin =>
      rcases placed with held | named
      · cases held; exact now rfl
      · cases named
    | forgo => rcases placed with held | named <;> contradiction
    | propose admin proposed holds =>
      rcases placed with held | named
      · cases held; exact before (Or.inl holds)
      · cases named; exact now rfl
    | clear admin holds =>
      rcases placed with held | named
      · cases held; exact before (Or.inl holds)
      · cases named
    | accept admin successor =>
      rcases placed with held | named
      · cases held; exact before (Or.inr rfl)
      · cases named
    | abolish admin holds => rcases placed with held | named <;> contradiction

theorem moveOfPlaced {s next : State} {caller : Option Party} {r : Request}
    (moved : Moves s (.update caller r) next) :
    ∃ i : Identity, caller = some (.identity i) ∧
      (s.admin = some (.identity i) ∨ s.proposed = some (.identity i)) := by
  cases moved with
  | propose admin proposed held => exact ⟨admin, rfl, Or.inl held⟩
  | clear admin held => exact ⟨admin, rfl, Or.inl held⟩
  | accept admin successor => exact ⟨successor, rfl, Or.inr rfl⟩
  | abolish admin held => exact ⟨admin, rfl, Or.inl held⟩

namespace Call

variable {c : Call} {v : Validator}

def sentBy (ns : String) (x : Option Party) (c : Call) : Bool :=
  match c.asked with
  | .establish _ => false
  | .update caller _ => c.service.ns = ns ∧ caller = x

theorem sentByUpdate {ns : String} {x : Option Party} (own : c.sentBy ns x = true) :
    c.service.ns = ns ∧ ∃ r, c.asked = .update x r := by
  unfold sentBy at own
  split at own
  · cases own
  · rename_i caller r asked
    obtain ⟨here, rfl⟩ := of_decide_eq_true own
    exact ⟨here, r, asked⟩

def under (c : Call) (v : Validator) : Call := { c with validator := v }

theorem outcomeUnder (alike : v.rule = c.validator.rule) (s : Store) :
    (c.under v).outcome s = c.outcome s :=
  (c.mutationConfined.answers ((c.under v).site s) (c.site s) ⟨rfl, rfl, alike⟩).1

theorem answerUnder (alike : v.rule = c.validator.rule) (s : Store) :
    (c.under v).answer s = c.answer s := by
  rw [answerOutcome, answerOutcome, outcomeUnder alike]
  rfl

theorem afterUnder {b : ByteStore} {st : State} (alike : v.rule = c.validator.rule)
    (filled : st.Filled) (known : b.stateAt c.service.ns = .ok st) :
    (c.under v).after (.bytes b) = c.after (.bytes b) := by
  have same : (c.under v).verdict st = c.verdict st := by
    rw [← outcomeVerdict filled known, ← outcomeUnder alike]
    exact (outcomeVerdict (c := c.under v) filled known).symm
  cases decided : c.verdict st with
  | error e =>
    rw [decided] at same
    rw [refusedKeepsBytes ((outcomeVerdict filled known).trans decided),
      refusedKeepsBytes ((outcomeVerdict (c := c.under v) filled known).trans same)]
  | ok next =>
    rw [decided] at same
    rw [(mutationKept filled known decided).2, (mutationKept (c := c.under v) filled known same).2]
    rfl

end Call

namespace Course

def Unnamed (ns : String) (x : Option Party) (calls : List Call) : Prop :=
  ∀ i : Identity, x = some (.identity i) → ∀ m ∈ history ns calls, m.named? ≠ some i

/-- A course without the updates of a sender. Validators may have seen less in it: what a listed one
remembers, it remembers of refused calls too. -/
inductive Without (ns : String) (x : Option Party) : List Call → List Call → Prop
  | nil : Without ns x [] []
  | drop {c : Call} {calls rest : List Call} (own : c.sentBy ns x = true)
    (without : Without ns x calls rest) : Without ns x (c :: calls) rest
  | keep {c : Call} {calls rest : List Call} (other : c.sentBy ns x = false) {v : Validator}
    (alike : v.rule = c.validator.rule) (without : Without ns x calls rest) :
    Without ns x (c :: calls) (c.under v :: rest)

def replies (s : Store) : List Call → List (Call × Except Failure Reply)
  | [] => []
  | c :: rest => (c, c.answer s) :: replies (c.after s) rest

section
variable {ns : String} {x : Option Party} {calls rest : List Call}

theorem withoutFilter (ns : String) (x : Option Party) (calls : List Call) :
    Without ns x calls (calls.filter fun c => !c.sentBy ns x) := by
  induction calls with
  | nil => exact .nil
  | cons c calls ih =>
    cases own : c.sentBy ns x with
    | true =>
      rw [List.filter_cons_of_neg (by simp [own])]
      exact .drop own ih
    | false =>
      rw [List.filter_cons_of_pos (by simp [own])]
      exact .keep (v := c.validator) own rfl ih

theorem unnamedBefore {past : List Call} (unnamed : Unnamed ns x (past ++ calls)) :
    Unnamed ns x past := by
  intro i same m member
  refine unnamed i same m ?_
  rw [history, historyFromAppend]
  exact List.mem_append_left _ member

theorem unnamedRefused {past : List Call} {c : Call} (unnamed : Unnamed ns x past)
    (own : c.sentBy ns x = true) : ∃ e, c.outcome (run past) = .error e := by
  obtain ⟨rfl, r, asked⟩ := Call.sentByUpdate own
  obtain ⟨st, known, led⟩ := reached past c.service.ns
  rw [outcomeReached c known]
  cases decided : c.verdict st with
  | error e => exact ⟨e, rfl⟩
  | ok next =>
    have moved := Call.verdictMoves (leadsFilled led) decided
    rw [asked] at moved
    obtain ⟨i, same, placed⟩ := moveOfPlaced moved
    obtain ⟨m, member, named⟩ := leadsNamed led placed
    exact (unnamed i same m member named).elim

theorem answerRefused {c : Call} {s : Store} {e : Failure} (refused : c.outcome s = .error e) :
    ∃ e', c.answer s = .error e' := by
  rw [Call.answerOutcome, refused, Call.answerTo]
  split
  · exact ⟨e, rfl⟩
  · exact ⟨_, rfl⟩

theorem runSnoc (past : List Call) (c : Call) : run (past ++ [c]) = c.after (run past) := by
  rw [runAppend]
  rfl

theorem unnamedQuiet {past : List Call} {c : Call} (unnamed : Unnamed ns x past)
    (own : c.sentBy ns x = true) : c.after (run past) = run past := by
  obtain ⟨e, refused⟩ := unnamedRefused unnamed own
  obtain ⟨b, bytes⟩ := runBytes past
  rw [bytes] at refused ⊢
  exact Call.refusedKeepsBytes refused

theorem afterAlike {v : Validator} (past : List Call) (c : Call) (alike : v.rule = c.validator.rule) :
    (c.under v).after (run past) = c.after (run past) := by
  obtain ⟨b, bytes, holds⟩ := consistent past
  obtain ⟨st, known, led⟩ := holds c.service.ns
  rw [bytes]
  exact Call.afterUnder alike (leadsFilled led) known

theorem withoutTrace (past : List Call) (without : Without ns x calls rest)
    (unnamed : Unnamed ns x (past ++ calls)) :
    (replies (run past) rest).map Prod.snd =
        ((replies (run past) calls).filter fun r => !r.1.sentBy ns x).map Prod.snd ∧
      runFrom (run past) rest = runFrom (run past) calls := by
  -- the past grows with the calls that the two courses have behind them; it is the longer one's
  induction without generalizing past with
  | nil => exact ⟨rfl, rfl⟩
  | @drop c calls rest own without ih =>
    have quiet := unnamedQuiet (unnamedBefore unnamed) own
    have later := ih (past ++ [c]) (by rw [List.append_assoc]; exact unnamed)
    rw [runSnoc, quiet] at later
    rw [replies, List.filter_cons_of_neg (by simp [own]), quiet]
    refine ⟨later.1, later.2.trans ?_⟩
    rw [runFrom, runFrom, List.foldl_cons, quiet]
  | @keep c calls rest other v alike without ih =>
    have later := ih (past ++ [c]) (by rw [List.append_assoc]; exact unnamed)
    have same := afterAlike past c alike
    rw [runSnoc] at later
    rw [replies, replies, List.filter_cons_of_pos (by simp [other]), List.map_cons, List.map_cons,
      same, later.1, Call.answerUnder alike]
    refine ⟨rfl, ?_⟩
    rw [runFrom, runFrom, List.foldl_cons, List.foldl_cons, same]
    exact later.2

end

/-- A sender whom no mutation that was kept names has every update refused, and without its updates every
other call gets the same answer and the store ends up the same. -/
theorem unnamedLeavesNoTrace (ns : String) (x : Option Party) (calls : List Call)
    (unnamed : Unnamed ns x calls) :
    (∀ before c later, calls = before ++ c :: later → c.sentBy ns x = true →
      (∃ e, c.outcome (run before) = .error e) ∧ ∃ e, c.answer (run before) = .error e) ∧
    ∀ rest, Without ns x calls rest →
      (replies start rest).map Prod.snd =
        ((replies start calls).filter fun r => !r.1.sentBy ns x).map Prod.snd ∧
      run rest = run calls := by
  constructor
  · rintro before c later rfl own
    obtain ⟨e, refused⟩ := unnamedRefused (unnamedBefore unnamed) own
    exact ⟨⟨e, refused⟩, answerRefused refused⟩
  · intro rest without
    exact withoutTrace [] without unnamed

def crowning : Call := Call.onConsole [] (.establish (.setInitialAdmin (.string "peter")))

def intrusion : Call :=
  Call.onConsole [] (.update (some (.named "miles")) (.proposeNewAdmin (.string "miles")))

theorem intruderUntraced : run [crowning] = run [crowning, intrusion] := by
  have fresh : (run []).stateAt "xyz" = .ok .vacant := rfl
  have crowned := runTaken (c := crowning) fresh rfl
  have refused : intrusion.outcome (run [crowning]) = .error (.fault .notAdmin) :=
    (outcomeReached intrusion crowned.1).trans rfl
  have past : history "xyz" [crowning, intrusion] = [crowning.asked] := by
    rw [show [crowning, intrusion] = [crowning] ++ [intrusion] from rfl, historySnoc]
    simp only [added, refused, List.append_nil]
    exact crowned.2
  have unnamed : Unnamed "xyz" (some (.named "miles")) [crowning, intrusion] := by
    intro i same m member named
    cases same
    rw [past] at member
    cases List.mem_singleton.mp member
    revert named
    decide
  exact ((unnamedLeavesNoTrace "xyz" (some (.named "miles")) [crowning, intrusion] unnamed).2 _
    (withoutFilter "xyz" (some (.named "miles")) [crowning, intrusion])).2

end Course

end Handover

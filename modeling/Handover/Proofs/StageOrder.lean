import Handover.Proofs.Stages

/-!
The order of the stages. The first stage that has a fault decides the call, and what comes after it leaves
no trace in the counts of the store and in the list of the validator.
-/
namespace Handover

namespace Call

variable {c : Call} {p : PlainStore} {refused seen : List Json} {k : Stage} {f : Fault}

theorem stopsOrClear (c : Call) (p : PlainStore) (refused : List Json) :
    (∃ k f, c.StopsAt p refused k f ∧ c.staged p refused = .error (.fault f)) ∨
      (∀ k, c.fault? p refused k = none) ∧ c.staged p refused = .ok c.asked.leaves := by
  unfold staged
  cases found : Stage.all.findSome? (c.fault? p refused) with
  | none =>
    have clear := List.findSome?_eq_none_iff.mp found
    exact Or.inr ⟨fun k => clear k k.memberAll, rfl⟩
  | some f =>
    obtain ⟨front, k, back, split, fails, earlier⟩ := List.findSome?_eq_some_iff.mp found
    have apart : ∀ j ∈ front, j ≠ k := by
      rintro j member rfl
      cases (earlier j member).symm.trans fails
    refine Or.inl ⟨k, f, ⟨fails, ?_⟩, rfl⟩
    rw [Stage.beforeSplit split apart]
    exact earlier

theorem passesIff (stops : c.StopsAt p refused k f) (j : Stage) :
    c.passes p refused j ↔ j ∈ k.before := by
  constructor
  · intro passed
    refine (Stage.beforeOr j k).resolve_right fun member => ?_
    cases (passed k member).symm.trans stops.fails
  · intro member i reached
    exact stops.earlier i ((Stage.beforeIff j k).mp member i reached)

section
variable (clear : c.fault? p refused k = none)
include clear

theorem supportedClear (family : k = .family) : c.asked.supported = true := by
  subst family
  simpa [fault?] using clear

theorem readClear (reading : k = .reading) : p.failsGet = false := by
  subst reading
  simpa [fault?] using clear

theorem liveClear (abolition : k = .abolition) :
    State.ofRecord (p.cell? c.service.ns) ≠ .abolished := by
  subst abolition
  simpa [fault?] using clear

theorem writtenClear (writing : k = .writing) : p.failsSet = false := by
  subst writing
  simpa [fault?] using clear

end

def stopped (c : Call) (p : PlainStore) (refused seen : List Json) (k : Stage) : Site where
  store := .plain (if .family ∈ k.before then p.visited else p)
  validator := .listed refused
    (seen ++ if .guard ∈ k.before then c.asked.request.payload?.toList else [])
  log := []

theorem siteListed (listed : c.validator = .listed refused seen) (s : Store) :
    c.site s = ⟨s, .listed refused seen, []⟩ := by
  rw [Call.site, listed]

theorem mutationInside (inside : c.asked.supported = true) :
    c.mutation = c.service.mutate c.host c.asked.judge := by
  rw [mutation, if_pos inside]

section
variable (texts : ∀ raw, c.asked.request.payload? = some raw → ∃ s, raw = .string s)
include texts

theorem judgeCleared {s : State} (inside : c.asked.supported = true) (live : s ≠ .abolished)
    (allowed : c.asked.guardFault? s = none) (refused seen : List Json) :
    c.asked.judge (.listed refused seen) s =
      ((c.asked.request.payload?.bind (textFault? refused)).elim (.ok c.asked.leaves)
          fun f => .error (.fault f),
        .listed refused (seen ++ c.asked.request.payload?.toList)) := by
  cases shown : c.asked.request.payload? with
  | none =>
    rw [judgeSettled inside live allowed shown, Option.toList_none, List.append_nil]
    rfl
  | some raw =>
    obtain ⟨text, rfl⟩ := texts raw shown
    exact judgeValidated inside live allowed shown refused seen

theorem mutationStopped (listed : c.validator = .listed refused seen)
    (stops : c.StopsAt p refused k f) :
    c.mutation (c.site (.plain p)) = (.error (.fault f), c.stopped p refused seen k) := by
  have fails := stops.fails
  have earlier (j : Stage) (member : j ∈ k.before) := stops.earlier j member
  rw [siteListed listed]
  cases k with
  | family =>
    have outside : c.asked.supported = false ∧ c.unsupported = .fault f := by
      simpa [fault?, unsupported] using fails
    rw [mutationUnsupported _ outside.1, outside.2]
    simp [stopped, Stage.before, Stage.all]
  | reading =>
    have inside := supportedClear (earlier .family (by decide)) rfl
    have unread : p.failsGet = true ∧ .storage c.service.ns .unreadable = f := by
      simpa [fault?] using fails
    rw [mutationInside inside, Service.mutateUnread unread.1, unread.2]
    simp [stopped, Stage.before, Stage.all]
  | abolition =>
    have inside := supportedClear (earlier .family (by decide)) rfl
    have read := readClear (earlier .reading (by decide)) rfl
    have gone : State.ofRecord (p.cell? c.service.ns) = .abolished ∧ .abolished = f := by
      simpa [fault?] using fails
    rw [mutationInside inside, Service.mutateDenied read gone.1 (judgeAbolished inside), gone.2]
    simp [stopped, Stage.before, Stage.all]
  | guard =>
    have inside := supportedClear (earlier .family (by decide)) rfl
    have read := readClear (earlier .reading (by decide)) rfl
    have live := liveClear (earlier .abolition (by decide)) rfl
    rw [mutationInside inside, Service.mutateDenied read rfl (judgeDenied inside live fails)]
    simp [stopped, Stage.before, Stage.all]
  | validation =>
    have inside := supportedClear (earlier .family (by decide)) rfl
    have read := readClear (earlier .reading (by decide)) rfl
    have live := liveClear (earlier .abolition (by decide)) rfl
    have judged := judgeCleared texts inside live (earlier .guard (by decide)) refused seen
    have invalid : c.asked.request.payload?.bind (textFault? refused) = some f := fails
    rw [invalid] at judged
    rw [mutationInside inside, Service.mutateDenied read rfl judged]
    simp [stopped, Stage.before, Stage.all]
  | writing =>
    have inside := supportedClear (earlier .family (by decide)) rfl
    have read := readClear (earlier .reading (by decide)) rfl
    have live := liveClear (earlier .abolition (by decide)) rfl
    have allowed := earlier .guard (by decide)
    have judged := judgeCleared texts inside live allowed refused seen
    have valid : c.asked.request.payload?.bind (textFault? refused) = none :=
      earlier .validation (by decide)
    rw [valid] at judged
    obtain ⟨r, flat⟩ := leavesFlat inside allowed
    have unwritten : p.failsSet = true ∧ .storage c.service.ns .unwritable = f := by
      simpa [fault?] using fails
    rw [mutationInside inside, Service.mutateUnwritten read rfl judged flat unwritten.1, unwritten.2]
    simp [stopped, Stage.before, Stage.all]

theorem mutationClear (listed : c.validator = .listed refused seen)
    (clear : ∀ k, c.fault? p refused k = none) :
    ∃ r, c.asked.leaves.toRecord = .ok r ∧ c.mutation (c.site (.plain p)) = (.ok c.asked.leaves,
      ⟨.plain { p.visited.seed c.service.ns r with sets := p.sets + 1 },
        .listed refused (seen ++ c.asked.request.payload?.toList), []⟩) := by
  have inside := supportedClear (clear .family) rfl
  have read := readClear (clear .reading) rfl
  have live := liveClear (clear .abolition) rfl
  have judged := judgeCleared texts inside live (clear .guard) refused seen
  have valid : c.asked.request.payload?.bind (textFault? refused) = none := clear .validation
  rw [valid] at judged
  obtain ⟨r, flat⟩ := leavesFlat inside (clear .guard)
  refine ⟨r, flat, ?_⟩
  rw [siteListed listed, mutationInside inside]
  exact Service.mutateWritten read rfl judged flat (writtenClear (clear .writing) rfl)

end

/-- What a call leaves in the store and in the validator. The texts that the validator saw grow when the
guard passes: what comes after it is the validation itself. -/
structure Traces (c : Call) (p : PlainStore) (refused seen : List Json) (t : Site) (q : PlainStore) :
    Prop where
  store : t.store = .plain q
  validator : t.validator = .listed refused
    (seen ++ if c.passes p refused .guard then c.asked.request.payload?.toList else [])
  opened : q.opened = p.opened + if c.passes p refused .family then 1 else 0
  gets : q.gets = p.gets + if c.passes p refused .family then 1 else 0
  sets : q.sets = p.sets + if c.passes p refused .writing then 1 else 0
  unmoved : ¬ c.passes p refused .writing → q.cells = p.cells

theorem stoppedTraces (stops : c.StopsAt p refused k f) :
    ∃ q, c.Traces p refused seen (c.stopped p refused seen k) q := by
  have unwritten : Stage.writing ∉ k.before := by cases k <;> decide
  refine ⟨if .family ∈ k.before then p.visited else p, ?_⟩
  constructor
  · rfl
  · simp only [stopped, passesIff stops]
  · simp only [passesIff stops]
    split <;> rfl
  · simp only [passesIff stops]
    split <;> rfl
  · simp only [passesIff stops, if_neg unwritten]
    split <;> rfl
  · intro _
    split <;> rfl

theorem toldTraces {q : PlainStore} {done : Except Failure State × Site}
    (traces : c.Traces p refused seen done.2 q) :
    c.Traces p refused seen (Action.tell c.entry c.reply done).2 q where
  store := (Action.tellStore _ _ _).trans traces.store
  validator := (Action.tellValidator _ _ _).trans traces.validator
  opened := traces.opened
  gets := traces.gets
  sets := traces.sets
  unmoved := traces.unmoved

/-- The first stage with a fault decides what a change comes to, and what it answers if the log takes the
entry. No later stage leaves a trace. -/
theorem stagesInOrder (listed : c.validator = .listed refused seen)
    (texts : ∀ raw, c.asked.request.payload? = some raw → ∃ s, raw = .string s) :
    c.outcome (.plain p) = c.staged p refused ∧
    (c.Told (c.staged p refused) → c.answer (.plain p) = (c.staged p refused).map c.reply) ∧
    ∃ q, c.Traces p refused seen (c.perform (c.site (.plain p))).2 q := by
  have settled : c.outcome (.plain p) = c.staged p refused ∧
      ∃ q, c.Traces p refused seen (c.mutation (c.site (.plain p))).2 q := by
    unfold outcome
    rcases stopsOrClear c p refused with ⟨k, f, stops, failed⟩ | ⟨clear, kept⟩
    · rw [mutationStopped texts listed stops, failed]
      exact ⟨rfl, stoppedTraces stops⟩
    · obtain ⟨r, -, mutated⟩ := mutationClear texts listed clear
      have passed (k : Stage) : c.passes p refused k := fun j _ => clear j
      rw [mutated, kept]
      refine ⟨rfl, _, rfl, ?_, ?_, ?_, ?_, fun stuck => (stuck (passed _)).elim⟩
      all_goals rw [if_pos (passed _)]
      all_goals rfl
  obtain ⟨outcome, q, traces⟩ := settled
  refine ⟨outcome, fun told => ?_, q, ?_⟩
  · rw [answerOutcome, outcome, answerTold told]
  · rw [performTold]
    exact toldTraces traces

def stuck : PlainStore where
  cells := [("xyz", ⟨.bool false, some (.named "peter"), none, by decide, by decide⟩)]
  failsGet := false
  failsSet := true
  gets := 3
  sets := 1
  opened := 2

def proposesNobody (caller : String) : Call :=
  { onConsole [] (.update (some (.named caller)) (.proposeNewAdmin (.string ""))) with
    validator := .fresh }

theorem intruderStopsFirst :
    (proposesNobody "mallory").answer (.plain stuck) = .error (.fault .notAdmin) ∧
    ((proposesNobody "mallory").perform ((proposesNobody "mallory").site (.plain stuck))).2.validator =
      .listed [] [] ∧
    (proposesNobody "peter").answer (.plain stuck) = .error (.fault (.identity (.string "") .empty)) ∧
    ∃ q, ((proposesNobody "peter").perform ((proposesNobody "peter").site (.plain stuck))).2.store =
        .plain q ∧ (q.opened, q.gets, q.sets) = (3, 4, 1) ∧ q.cells = stuck.cells := by
  have texts (caller : String) (raw : Json)
      (shown : (proposesNobody caller).asked.request.payload? = some raw) : ∃ s, raw = .string s :=
    ⟨"", (Option.some.inj shown).symm⟩
  have told (caller : String) (verdict : Except Failure State) : (proposesNobody caller).Told verdict :=
    toldLegible ⟨Audit.legibleNone, Audit.legibleMade _ _ _ _⟩ verdict
  obtain ⟨-, intruder, _, untouched⟩ := stagesInOrder (p := stuck) (c := proposesNobody "mallory") rfl
    (texts "mallory")
  obtain ⟨-, admin, q, traces⟩ := stagesInOrder (p := stuck) (c := proposesNobody "peter") rfl
    (texts "peter")
  have unwritten : ¬ (proposesNobody "peter").passes stuck [] .writing := by decide
  refine ⟨(intruder (told _ _)).trans (by decide), untouched.validator.trans (by decide),
    (admin (told _ _)).trans (by decide), q, traces.store, ?_, traces.unmoved unwritten⟩
  rw [traces.opened, traces.gets, traces.sets, if_neg unwritten, if_pos (by decide)]
  rfl

end Call

end Handover

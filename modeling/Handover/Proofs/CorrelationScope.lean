import Handover.Proofs.Surroundings

/-!
Correlation scopes of a session. A program is a tree of scopes and transactions with acts at any place;
blocks end well or over a failure. Whatever the tree, an act finds the identifier of the scope around it,
its entries show that one, and a block leaves the identifier as it found it.
-/
namespace Handover.Session

open World

def Act.asked? : Act → Option Audit.Asked
  | .establish _ r => do some (Mutation.establish (← r.request.toOption)).asks
  | .update _ sender r => do
    let sender ← (readParty sender).toOption
    some (Mutation.update sender (← r.request.toOption)).asks
  | .logRequest _ _ _ operation r sender event => do
    let r ← r.request.toOption
    some ⟨operation, r, ← (readParty sender).toOption, [event]⟩
  | _ => none

mutual

def Step.isUntagged : Step → Bool
  | .act a => a.isUntagged
  | .transaction _ _ _ steps | .scope _ _ steps => allUntagged steps

def allUntagged : List Step → Bool
  | [] => true
  | s :: rest => s.isUntagged && allUntagged rest

end

mutual

/-- A step in its surroundings, an outcome that it may have there, and the surroundings that it leaves. -/
inductive Nests : Audit.Surroundings → Step → Outcome → Audit.Surroundings → Prop
  | act {around : Audit.Surroundings} {a : Act} {r : Report}
    (current : a = .correlation → r.answer = .ok (.text around.active))
    (entries : ∀ asked, a.asked? = some asked → ∀ line ∈ r.lines, Audit.Emitted around asked line) :
    Nests around (.act a) (.act r) (a.leaves around)
  | nowhere {around : Audit.Surroundings} {name ns : String} {ending : Ending} {steps : List Step}
    {r : Report} {e : Failure} (missing : r.answer = .error e) :
    Nests around (.transaction name ns ending steps) (.block r none []) around
  | transaction {around after : Audit.Surroundings} {name ns : String} {ending : Ending}
    {steps : List Step} {r : Report} {inner : List Outcome}
    (inside : NestsAll ending.propagates around steps inner after) :
    Nests around (.transaction name ns ending steps) (.block r none inner) after
  | scope {around after : Audit.Surroundings} {given : String} {id : Option String} {ending : Ending}
    {steps : List Step} {r : Report} {inner : List Outcome} (known : given ≠ "")
    (own : ∀ s, id = some s → s ≠ "" → given = s)
    (inside : NestsAll ending.propagates { around with active := given } steps inner after) :
    Nests around (.scope id ending steps) (.block r (some given) inner)
      { after with active := around.active }

inductive NestsAll :
    Bool → Audit.Surroundings → List Step → List Outcome → Audit.Surroundings → Prop
  | nil {stops : Bool} {around : Audit.Surroundings} : NestsAll stops around [] [] around
  | cons {stops : Bool} {around next after : Audit.Surroundings} {s : Step} {o : Outcome}
    {steps : List Step} {outcomes : List Outcome} (first : Nests around s o next)
    (rest : NestsAll stops next steps outcomes after) :
    NestsAll stops around (s :: steps) (o :: outcomes) after
  | stopped {around after : Audit.Surroundings} {s : Step} {o : Outcome} {e : Failure}
    {left : List Step} (first : Nests around s o after) (failed : o.failure? = some e) :
    NestsAll true around (s :: left) [o] after

end

inductive Supplied : Step → Step → Prop
  | act (a : Act) : Supplied (.act a) (.act a)
  | transaction {name ns : String} {ending : Ending} {steps steps' : List Step}
    (inside : List.Forall₂ Supplied steps steps') :
    Supplied (.transaction name ns ending steps) (.transaction name ns ending steps')
  | scope {id : Option String} {ending : Ending} {steps steps' : List Step}
    (inside : List.Forall₂ Supplied steps steps') :
    Supplied (.scope id ending steps) (.scope id ending steps')
  | generated {id : Option String} {given : String} {ending : Ending} {steps steps' : List Step}
    (lacking : id = none ∨ id = some "") (known : given ≠ "")
    (inside : List.Forall₂ Supplied steps steps') :
    Supplied (.scope id ending steps) (.scope (some given) ending steps')

namespace World

variable {w : World}

section
variable (fit : w.Fit) (quiet : w.lines = [])
include fit quiet

theorem serveEmits {α : Type} {asked : Audit.Asked} (name : String) (x : Service → Host → Action α)
    (f : α → Answer)
    (emits : ∀ (svc : Service) (h : Host) (d : Validator) (s : Store), svc.logger.Made →
      "correlation_id" ∉ h.around.fields.map Prod.fst →
      ∀ line ∈ (x svc h ⟨s, d, []⟩).2.log, Audit.Emitted h.around asked line) :
    ∀ line ∈ (w.serving name x f).2.lines, Audit.Emitted w.around asked line := by
  unfold serving
  cases bound : w.bound? name with
  | none =>
    rw [serveUnbound bound, quiet]
    simp
  | some found =>
    obtain ⟨b, s, d⟩ := found
    rw [(serveBound bound x).2.2]
    change ∀ line ∈ w.lines ++ _, _
    rw [quiet, List.nil_append]
    exact emits b.service w.host d s (boundMade fit bound) fit.unbound

theorem performEmits {a : Act} {asked : Audit.Asked} (own : a.asked? = some asked) :
    ∀ line ∈ (w.perform a).2.lines, Audit.Emitted w.around asked line := by
  cases a with
  | establish name r =>
    simp only [perform]
    cases read : r.request with
    | error e => simp [Act.asked?, read, Except.toOption] at own
    | ok r' =>
      simp only [Act.asked?, read] at own
      cases own
      refine serveEmits fit quiet name _ _ fun svc h d s made unbound => ?_
      have ran := Action.returnRun Reply.view (svc.establish h r') ⟨s, d, []⟩
      have same : ((Call.mk svc h d (.establish r')).perform ⟨s, d, []⟩).2.log =
          (svc.establish h r' ⟨s, d, []⟩).2.log := congrArg (fun done => done.2.log) ran
      rw [← same]
      exact Call.performEmitted (c := ⟨svc, h, d, .establish r'⟩) made unbound s
  | update name sender r =>
    simp only [perform]
    cases heard : readParty sender with
    | error e => simp [Act.asked?, heard, Except.toOption] at own
    | ok p =>
      cases read : r.request with
      | error e => simp [Act.asked?, heard, read, Except.toOption] at own
      | ok r' =>
        simp only [Act.asked?, heard, read] at own
        cases own
        refine serveEmits fit quiet name _ _ fun svc h d s made unbound => ?_
        have ran := Action.returnRun Reply.event (svc.update h p r') ⟨s, d, []⟩
        have same : ((Call.mk svc h d (.update p r')).perform ⟨s, d, []⟩).2.log =
            (svc.update h p r' ⟨s, d, []⟩).2.log := congrArg (fun done => done.2.log) ran
        rw [← same]
        exact Call.performEmitted (c := ⟨svc, h, d, .update p r'⟩) made unbound s
  | logRequest service ns component operation r sender event =>
    cases read : r.request with
    | error e => simp [Act.asked?, read, Except.toOption] at own
    | ok r' =>
      cases heard : readParty sender with
      | error e => simp [Act.asked?, heard, read, Except.toOption] at own
      | ok p =>
        simp only [Act.asked?, heard, read] at own
        cases own
        simp only [perform, logRequest, read, heard, bind, Except.bind]
        cases logged : ((Audit.Logger.ofService w.journal service component ns).ofRequest w.around.active
            operation r' p).log w.around .info event [] with
        | error m =>
          change ∀ line ∈ w.lines, _
          simp [quiet]
        | ok lines =>
          change ∀ line ∈ w.lines ++ lines, _
          rw [quiet, List.nil_append]
          exact Audit.entryTakenEmitted ⟨_, _, _, _, rfl⟩ fit.unbound (by simp) (by simp) logged
  | _ => cases own

end

end World

-- What a block changes of the surroundings it puts back, whatever happened inside.
mutual

theorem runActive (w : World) : (s : Step) → (run w s).2.around.active = w.around.active
  | .act a => by
    simp only [run, World.report, performAround]
    cases a <;> rfl
  | .transaction name ns ending steps => by
    cases found : w.store name with
    | error e => simp only [run, found, World.report]
    | ok named =>
      obtain ⟨i, before⟩ := named
      have inside := runAllActive ending.propagates (w.putStore i before.enter) steps
      simp only [run, found, World.report]
      split <;> exact inside
  | .scope id ending steps => by
    simp only [run, World.report]

theorem runAllActive (stops : Bool) (w : World) :
    (steps : List Step) → (runAll stops w steps).2.2.around.active = w.around.active
  | [] => rfl
  | s :: rest => by
    have first := runActive w s
    have later := (runAllActive stops (run w s).2 rest).trans first
    simp only [runAll]
    split
    · exact first
    · exact later

end

section
variable {w : World}

structure Ready (w : World) : Prop extends w.Fit where
  quiet : w.lines = []

theorem readyReport (fit : w.Fit) (answer : Except Failure Answer) : Ready (w.report answer).2 :=
  ⟨⟨fit.generates, fit.made, fit.unbound⟩, rfl⟩

theorem readyStore (ready : Ready w) (i : Nat) (s : Store) : Ready (w.putStore i s) :=
  ⟨⟨ready.generates, ready.made, ready.unbound⟩, ready.quiet⟩

theorem readyActive (ready : Ready w) (active : String) :
    Ready { w with around := { w.around with active := active } } :=
  ⟨⟨ready.generates, ready.made, ready.unbound⟩, ready.quiet⟩

theorem reportLines (answer : Except Failure Answer) :
    ∀ line ∈ (w.report answer).1.lines, line ∈ w.lines := by
  intro line member
  rcases List.mem_append.mp member with kept | text
  · exact (List.mem_filter.mp kept).1
  · exact (List.mem_filter.mp text).1

theorem actNests (ready : Ready w) {a : Act} (untagged : a.isUntagged = true) :
    Nests w.around (.act a) (run w (.act a)).1 (run w (.act a)).2.around ∧ Ready (run w (.act a)).2 := by
  have after : (run w (.act a)).2.around = a.leaves w.around := performAround w a
  rw [after]
  simp only [run]
  refine ⟨.act ?_ ?_, readyReport (performFit untagged ready.toFit) (w.perform a).1⟩
  · rintro rfl
    rfl
  · intro asked own line member
    exact performEmits ready.toFit ready.quiet own line (reportLines _ line member)

theorem entered (ready : Ready w) (id : Option String) :
    Audit.Correlation.enter w.fresh id ≠ "" ∧
      ∀ s, id = some s → s ≠ "" → Audit.Correlation.enter w.fresh id = s := by
  cases id with
  | none => exact ⟨ready.generates, fun s same => by cases same⟩
  | some given =>
    rw [Audit.Correlation.enter]
    by_cases empty : given = ""
    · rw [if_pos empty]
      exact ⟨ready.generates, fun s same known => (known ((Option.some.inj same).symm.trans empty)).elim⟩
    · rw [if_neg empty]
      exact ⟨empty, fun s same _ => Option.some.inj same⟩

end

mutual

theorem runNests {w : World} (ready : Ready w) : (s : Step) → s.isUntagged = true →
    Nests w.around s (run w s).1 (run w s).2.around ∧ Ready (run w s).2
  | .act a, untagged => actNests ready untagged
  | .transaction name ns ending steps, untagged => by
    rw [Step.isUntagged] at untagged
    cases found : w.store name with
    | error e =>
      simp only [run, found]
      exact ⟨.nowhere rfl, readyReport ready.toFit _⟩
    | ok named =>
      obtain ⟨i, before⟩ := named
      obtain ⟨inside, after⟩ :=
        runAllNests ending.propagates (readyStore ready i before.enter) steps untagged
      simp only [run, found]
      split
      · exact ⟨.transaction inside, readyReport (readyStore after i _).toFit _⟩
      · exact ⟨.transaction inside, readyReport after.toFit _⟩
  | .scope id ending steps, untagged => by
    rw [Step.isUntagged] at untagged
    obtain ⟨known, own⟩ := entered ready id
    obtain ⟨inside, after⟩ := runAllNests ending.propagates
      (readyActive ready (Audit.Correlation.enter w.fresh id)) steps untagged
    simp only [run]
    exact ⟨.scope known own inside, readyReport (readyActive after _).toFit _⟩

theorem runAllNests {w : World} (stops : Bool) (ready : Ready w) :
    (steps : List Step) → allUntagged steps = true →
    NestsAll stops w.around steps (runAll stops w steps).1 (runAll stops w steps).2.2.around ∧
      Ready (runAll stops w steps).2.2
  | [], _ => ⟨.nil, ready⟩
  | s :: rest, untagged => by
    rw [allUntagged, Bool.and_eq_true] at untagged
    obtain ⟨first, after⟩ := runNests ready s untagged.1
    obtain ⟨others, last⟩ := runAllNests stops after rest untagged.2
    simp only [runAll]
    split
    · rename_i failed
      exact ⟨.stopped first failed, after⟩
    · exact ⟨.cons first others, last⟩

end

-- The recursion is on the program that runs; the one that was written has the same shape.
mutual

theorem nestsSupplied {around after : Audit.Surroundings} {s : Step} {o : Outcome} :
    (s' : Step) → Supplied s s' → Nests around s' o after → Nests around s o after
  | .act a, supplied, nests => by
    cases supplied
    exact nests
  | .transaction name ns ending steps, supplied, nests => by
    cases supplied with
    | transaction alike =>
      cases nests with
      | nowhere missing => exact .nowhere missing
      | transaction inside => exact .transaction (nestsAllSupplied steps alike inside)
  | .scope id ending steps, supplied, nests => by
    cases nests with
    | scope known own inside =>
      cases supplied with
      | scope alike => exact .scope known own (nestsAllSupplied steps alike inside)
      | generated lacking _ alike =>
        refine .scope known (fun s given named => ?_) (nestsAllSupplied steps alike inside)
        rcases lacking with none | empty
        · cases none.symm.trans given
        · exact (named (Option.some.inj (given.symm.trans empty))).elim

theorem nestsAllSupplied {stops : Bool} {around after : Audit.Surroundings} {steps : List Step}
    {outcomes : List Outcome} : (steps' : List Step) → List.Forall₂ Supplied steps steps' →
    NestsAll stops around steps' outcomes after → NestsAll stops around steps outcomes after
  | [], supplied, nests => by
    cases supplied
    exact nests
  | s :: rest, supplied, nests => by
    cases supplied with
    | cons first others =>
      cases nests with
      | cons nest nested => exact .cons (nestsSupplied s first nest) (nestsAllSupplied rest others nested)
      | stopped nest failed => exact .stopped (nestsSupplied s first nest) failed

end

/-- Every program of acts, transactions and scopes runs with its scopes nested, whatever is generated for
the scopes that bring no identifier; and no step of any session leaves another identifier than it found. -/
theorem scopesNest {environment : Settings.Environment} {time fresh : String} (generates : fresh ≠ "")
    {steps steps' : List Step} (supplied : List.Forall₂ Supplied steps steps')
    (untagged : allUntagged steps' = true) :
    (∃ after, after.active = "" ∧
      NestsAll false { active := "", fields := [], time } steps
        (runSession (.start environment time fresh) steps') after) ∧
      ∀ (w : World) (s : Step), (run w s).2.around.active = w.around.active := by
  have ready : Ready (.start environment time fresh) :=
    ⟨⟨generates, by simp [World.start], by simp [World.start]⟩, rfl⟩
  obtain ⟨nests, -⟩ := runAllNests false ready steps' untagged
  exact ⟨⟨_, runAllActive false _ steps', nestsAllSupplied steps' supplied nests⟩, runActive⟩

def outing (id : Option String) : List Step :=
  [.act (.makeStore "s" .plain), .act (.makeValidator "v" .listed),
    .scope (some "outer") ⟨false, none⟩
      [.act (.makeService "a" "xyz" "s" "v"),
        .scope id ⟨true, some "boom"⟩
          [.act (.establish "a" (.direct (.setInitialAdmin (.string "peter"))))],
        .act .correlation],
    .act (.update "a" (.string "miles") (.direct .clearProposed))]

theorem outingNests :
    List.Forall₂ Supplied (outing none) (outing (some "drawn")) ∧
    allUntagged (outing (some "drawn")) = true ∧
    ∃ after, after.active = "" ∧ NestsAll false { active := "", fields := [], time := "" } (outing none)
      (runSession (.start [] "" "fresh") (outing (some "drawn"))) after := by
  have supplied : List.Forall₂ Supplied (outing none) (outing (some "drawn")) :=
    .cons (.act _) (.cons (.act _) (.cons
      (.scope (.cons (.act _) (.cons (.generated (Or.inl rfl) (by decide) (.cons (.act _) .nil))
        (.cons (.act _) .nil)))) (.cons (.act _) .nil)))
  exact ⟨supplied, rfl, (scopesNest (by decide) supplied rfl).1⟩

end Handover.Session

import Handover.Proofs.CanonicalWord
import Handover.Proofs.Course

/-!
A role as three variables. Whatever a service does over a store of bytes that starts empty, with a
canonical validator, is what this flat role does: the same verdict on every call, down to the fault,
and the same answers to every query in between.
-/
namespace Handover

structure FlatRole where
  abolished : Bool
  admin : Option Identity
  proposed : Option Identity
  deriving DecidableEq, Repr

namespace FlatRole

def fresh : FlatRole := ⟨false, none, none⟩

def fills (caller : Option Party) : Option Identity → Bool
  | some i => caller = some (.identity i)
  | none => false

def establish (b : Bounds) : Request → Except Fault FlatRole
  | .setInitialAdmin raw => (Identity.canonical b raw).map fun i => ⟨false, some i, none⟩
  | _ => .ok ⟨true, none, none⟩

def update (b : Bounds) (r : FlatRole) (caller : Option Party) : Request → Except Fault FlatRole
  | .proposeNewAdmin raw =>
    if fills caller r.admin then (Identity.canonical b raw).map fun i => ⟨false, r.admin, some i⟩
    else .error .notAdmin
  | .clearProposed => if fills caller r.admin then .ok ⟨false, r.admin, none⟩ else .error .notAdmin
  | .acceptProposed =>
    if fills caller r.proposed then .ok ⟨false, r.proposed, none⟩ else .error .notProposed
  | _ => if fills caller r.admin then .ok ⟨true, none, none⟩ else .error .notAdmin

def judge (b : Bounds) (r : FlatRole) (m : Mutation) : Except Fault FlatRole :=
  if !m.supported then .error (.unsupported m.operation m.request.kind)
  else if r.abolished then .error .abolished
  else
    match m with
    | .establish q => if r.admin.isSome then .error .alreadySet else establish b q
    | .update caller q => r.update b caller q

def after (b : Bounds) (r : FlatRole) (m : Mutation) : FlatRole :=
  match r.judge b m with
  | .ok next => next
  | .error _ => r

def run (b : Bounds) (ms : List Mutation) : FlatRole := ms.foldl (after b) fresh

inductive Stands : FlatRole → State → Prop
  | vacant : Stands ⟨false, none, none⟩ .vacant
  | owned (admin : Identity) : Stands ⟨false, some admin, none⟩ (.owned (some (.identity admin)))
  | offered (admin proposed : Identity) : Stands ⟨false, some admin, some proposed⟩
    (.offered (some (.identity admin)) (some (.identity proposed)))
  | abolished : Stands ⟨true, none, none⟩ .abolished

section
variable {r : FlatRole} {s : State}

theorem standsAdmin (stands : Stands r s) : s.admin = r.admin.map .identity := by
  cases stands <;> rfl

theorem standsProposed (stands : Stands r s) : s.proposed = r.proposed.map .identity := by
  cases stands <;> rfl

theorem standsAbolished (stands : Stands r s) : s.isAbolished = r.abolished := by
  cases stands <;> rfl

theorem standsView (stands : Stands r s) :
    s.view = ⟨r.admin.map Identity.name, r.proposed.map Identity.name⟩ := by
  cases stands <;> rfl

theorem standsRequire (stands : Stands r s) (caller : Option Party) :
    s.requireAdmin caller =
      if fills caller r.admin then .ok (r.admin.map .identity) else .error .notAdmin := by
  unfold State.requireAdmin
  rw [standsAdmin stands]
  cases r.admin with
  | none => rfl
  | some a =>
    by_cases same : caller = some (.identity a)
    · subst same
      simp [fills]
    · simp [fills, same, eq_comm]

end

/-- What a service fails with for a fault of the flat verdict: the fault, unless the refused value or a
broken bound cannot be written. -/
def raised (m : Mutation) : Fault → Failure
  | .identity raw why =>
    if m.request.payload?.all Json.isWritable && why.isWritable then .fault (.identity raw why)
    else .misfit .overlong
  | f => .fault f

inductive Agrees (m : Mutation) : Except Fault FlatRole → Except Failure State → Prop
  | taken {r : FlatRole} {s : State} (stands : Stands r s) : Agrees m (.ok r) (.ok s)
  | refused (f : Fault) : Agrees m (.error f) (.error (raised m f))

theorem refusedRaised {b : Bounds} {raw : Json} {f : Fault} {m : Mutation}
    (payload : m.request.payload? = some raw) (refused : Identity.canonical b raw = .error f) :
    Identity.canonical? b raw = .error (raised m f) := by
  obtain ⟨why, rfl⟩ : ∃ why, f = .identity (Identity.shown raw) why := by
    obtain ⟨rule, -, same⟩ := Identity.canonicalError.mp refused
    exact ⟨_, same⟩
  unfold Identity.canonical?
  simp only [raised, payload, Option.all_some]
  by_cases writable : raw.isWritable = true
  · rw [if_pos writable, mapErrorError]
    exact ⟨_, refused, by simp only [writable, Fault.failure, Fault.isWritable,
      Identity.shownWritable, Bool.true_and]⟩
  · simp [writable]

theorem validatedAgrees {b : Bounds} {raw : Json} {m : Mutation} {flat : Identity → FlatRole}
    {next : Identity → State} (payload : m.request.payload? = some raw)
    (stands : ∀ i, Stands (flat i) (next i)) :
    Agrees m ((Identity.canonical b raw).map flat)
      ((Plan.validate raw next).carryOut (.canonical b)).1 := by
  simp only [Plan.carryOut, Validator.validate]
  cases checked : Identity.canonical b raw with
  | ok i =>
    rw [Identity.canonicalAccepts.mpr (Identity.canonicalOk.mp checked)]
    exact .taken (stands i)
  | error f =>
    rw [refusedRaised payload checked]
    exact .refused f

theorem startAgrees {b : Bounds} {r : FlatRole} {s : State} (stands : Stands r s) {q : Request}
    (inside : q.startsRole = true) :
    Agrees (.establish q) (r.judge b (.establish q)) (s.start (.canonical b) q).1 := by
  have supported : (Mutation.establish q).supported = true := inside
  unfold judge State.start State.planStart
  rw [supported]
  cases stands with
  | vacant =>
    cases q with
    | setInitialAdmin raw => exact validatedAgrees rfl fun i => .owned i
    | abolishAdminRole => exact .taken .abolished
    | _ => cases inside
  | owned admin => exact .refused .alreadySet
  | offered admin proposed => exact .refused .alreadySet
  | abolished => exact .refused .abolished

theorem requireAgrees {r : FlatRole} {s : State} {v : Validator} {m : Mutation} (stands : Stands r s)
    (caller : Option Party) {flat : Except Fault FlatRole} {plan : Option Party → Plan}
    (agrees : ∀ a, r.admin = some a → Agrees m flat ((plan (some (.identity a))).carryOut v).1) :
    Agrees m (if fills caller r.admin then flat else .error .notAdmin)
      (carryOut v ((s.requireAdmin caller).map plan)).1 := by
  rw [standsRequire stands]
  by_cases filled : fills caller r.admin = true
  · rw [if_pos filled, if_pos filled]
    cases held : r.admin with
    | none => rw [held] at filled; cases filled
    | some a => exact agrees a held
  · rw [if_neg filled, if_neg filled]
    exact .refused .notAdmin

theorem acceptAgrees {r : FlatRole} {s : State} {v : Validator} {m : Mutation} (stands : Stands r s)
    (caller : Option Party) :
    Agrees m (if fills caller r.proposed then .ok ⟨false, r.proposed, none⟩ else .error .notProposed)
      (carryOut v (if s.proposed = none ∨ s.proposed ≠ caller then .error .notProposed
        else .ok (.settle (.owned caller)))).1 := by
  rw [standsProposed stands]
  cases r.proposed with
  | none => exact .refused .notProposed
  | some p =>
    by_cases same : caller = some (.identity p)
    · subst same
      simp only [fills, Option.map_some, ne_eq, not_true, reduceCtorEq, or_self, if_false, decide_true,
        if_true]
      exact .taken (.owned p)
    · have other : some (Party.identity p) ≠ caller := Ne.symm same
      simp only [fills, Option.map_some, same, decide_false, Bool.false_eq_true, if_false]
      rw [if_pos (Or.inr other)]
      exact .refused .notProposed

theorem changeAgrees {b : Bounds} {r : FlatRole} {s : State} (stands : Stands r s)
    (caller : Option Party) {q : Request} (inside : q.changesRole = true) :
    Agrees (.update caller q) (r.judge b (.update caller q)) (s.change (.canonical b) caller q).1 := by
  have supported : (Mutation.update caller q).supported = true := inside
  unfold judge State.change State.planChange
  rw [supported]
  by_cases gone : s = .abolished
  · subst gone
    cases stands
    exact .refused .abolished
  · have active : r.abolished = false := by
      cases stands with
      | abolished => exact (gone rfl).elim
      | _ => rfl
    rw [active, if_neg gone]
    cases q with
    | proposeNewAdmin raw =>
      refine requireAgrees stands caller fun a held => ?_
      rw [held]
      exact validatedAgrees rfl fun i => .offered a i
    | clearProposed =>
      refine requireAgrees stands caller fun a held => ?_
      rw [held]
      exact .taken (.owned a)
    | acceptProposed => exact acceptAgrees stands caller
    | abolishAdminRole => exact requireAgrees stands caller fun a held => .taken .abolished
    | _ => cases inside

theorem verdictAgrees {b : Bounds} {r : FlatRole} {s : State} {c : Call}
    (canonical : c.validator = .canonical b) (stands : Stands r s) :
    Agrees c.asked (r.judge b c.asked) (c.verdict s) := by
  rw [Call.verdict, canonical]
  by_cases inside : c.asked.supported = true
  · rw [if_pos inside]
    cases asked : c.asked with
    | establish q =>
      rw [asked] at inside
      exact startAgrees stands inside
    | update caller q =>
      rw [asked] at inside
      exact changeAgrees stands caller inside
  · rw [if_neg inside]
    have outside : c.asked.supported = false := by simpa using inside
    unfold judge
    rw [outside]
    exact .refused _

theorem stepStands {b : Bounds} {r : FlatRole} {s : State} {c : Call} {calls : List Call}
    (canonical : c.validator = .canonical b) (stands : Stands r s)
    (known : (Course.run calls).stateAt c.service.ns = .ok s) :
    ∃ next, (Course.run (calls ++ [c])).stateAt c.service.ns = .ok next ∧
      Stands (r.after b c.asked) next := by
  have agrees := verdictAgrees canonical stands
  unfold after
  cases flat : r.judge b c.asked with
  | ok r' =>
    rw [flat] at agrees
    cases settled : c.verdict s with
    | error e => rw [settled] at agrees; cases agrees
    | ok next =>
      rw [settled] at agrees
      cases agrees with
      | taken later => exact ⟨next, (Course.runTaken known settled).1, later⟩
  | error f =>
    rw [flat] at agrees
    cases settled : c.verdict s with
    | ok next => rw [settled] at agrees; cases agrees
    | error e =>
      refine ⟨s, ?_, stands⟩
      rw [Course.runRefused known settled]
      exact known

def call (svc : Service) (b : Bounds) (asked : Host × Mutation) : Call :=
  ⟨svc, asked.1, .canonical b, asked.2⟩

def served (svc : Service) (b : Bounds) (asked : List (Host × Mutation)) : Store :=
  Course.run (asked.map (call svc b))

theorem runStands (svc : Service) (b : Bounds) (asked : List (Host × Mutation)) (calls : List Call)
    {r : FlatRole} {s : State} (stands : Stands r s)
    (known : (Course.run calls).stateAt svc.ns = .ok s) :
    ∃ next, (Course.run (calls ++ asked.map (call svc b))).stateAt svc.ns = .ok next ∧
      Stands ((asked.map Prod.snd).foldl (after b) r) next := by
  -- by induction on the calls to come, after any course that brought both to the same state
  induction asked generalizing calls r s with
  | nil =>
    refine ⟨s, ?_, stands⟩
    rw [List.map_nil, List.append_nil]
    exact known
  | cons first rest ih =>
    have canonical : (call svc b first).validator = .canonical b := rfl
    obtain ⟨next, later, still⟩ := stepStands canonical stands known
    obtain ⟨last, final, whole⟩ := ih (calls ++ [call svc b first]) still later
    refine ⟨last, ?_, whole⟩
    rw [List.append_assoc] at final
    exact final

theorem servedStands (svc : Service) (b : Bounds) (asked : List (Host × Mutation)) :
    ∃ s, (served svc b asked).stateAt svc.ns = .ok s ∧
      Stands (run b (asked.map Prod.snd)) s :=
  runStands svc b asked [] .vacant rfl

structure Shown (svc : Service) (s : Store) (r : FlatRole) : Prop where
  admin : ∀ h v log, svc.currentAdmin h ⟨s, v, log⟩ = (.ok (r.admin.map .identity), ⟨s, v, log⟩)
  proposed : ∀ h v log,
    svc.proposedAdmin h ⟨s, v, log⟩ = (.ok (r.proposed.map .identity), ⟨s, v, log⟩)
  abolished : ∀ h v log, svc.isAbolished h ⟨s, v, log⟩ = (.ok r.abolished, ⟨s, v, log⟩)
  view : ∀ h v log, svc.view h ⟨s, v, log⟩ =
    (.ok ⟨r.admin.map Identity.name, r.proposed.map Identity.name⟩, ⟨s, v, log⟩)

theorem servedShown (svc : Service) (b : Bounds) (asked : List (Host × Mutation)) :
    Shown svc (served svc b asked) (run b (asked.map Prod.snd)) := by
  obtain ⟨s, known, stands⟩ := servedStands svc b asked
  obtain ⟨bytes, same⟩ := Course.runBytes (asked.map (call svc b))
  have stored : served svc b asked = .bytes bytes := same
  rw [stored] at known ⊢
  constructor
  · intro h v log
    rw [← standsAdmin stands]
    exact Service.currentAdminLoaded known
  · intro h v log
    rw [← standsProposed stands]
    exact Service.proposedAdminLoaded known
  · intro h v log
    rw [← standsAbolished stands]
    exact Service.isAbolishedLoaded known
  · intro h v log
    rw [← standsView stands]
    exact Service.viewLoaded known

/-- After any calls a service shows the flat role, and decides the next call by the flat verdict. The
decision is what goes out unless the log cannot take its entry. -/
theorem serviceIsFlat (svc : Service) (b : Bounds) (asked : List (Host × Mutation)) :
    Shown svc (served svc b asked) (run b (asked.map Prod.snd)) ∧
    ∀ (h : Host) (m : Mutation),
      let c := call svc b (h, m)
      let decided := c.outcome (served svc b asked)
      Agrees m ((run b (asked.map Prod.snd)).judge b m) decided ∧
        c.answer (served svc b asked) = c.answerTo decided ∧
        (c.Legible → c.answer (served svc b asked) = decided.map c.reply) := by
  refine ⟨servedShown svc b asked, ?_⟩
  intro h m c decided
  obtain ⟨s, known, stands⟩ := servedStands svc b asked
  have canonical : c.validator = .canonical b := rfl
  have settled : decided = c.verdict s := Course.outcomeReached c known
  refine ⟨?_, Call.answerOutcome c _, fun legible => ?_⟩
  · rw [settled]
    exact verdictAgrees canonical stands
  · rw [Call.answerOutcome, Call.answerTold (Call.toldLegible legible _)]

/-- Two calls on a fresh role that the flat role refuses with other faults than they raise: one names an
integer of too many digits, in the other the log fails first. -/
theorem raisedOtherwise :
    (∃ shown, fresh.judge Settings.trial.bounds (.establish (.setInitialAdmin (.int Text.leastOverlong))) =
        .error (.identity shown .notText)) ∧
      (Call.onConsole [] (.establish (.setInitialAdmin (.int Text.leastOverlong)))).answer
        (Course.run []) = .error (.misfit .overlong) ∧
      fresh.judge Settings.trial.bounds (.update none .clearProposed) = .error .notAdmin ∧
      (Call.onConsole [("stack", .int 5)] (.update none .clearProposed)).answer (Course.run []) =
        .error (.mismatch (.notJoinable "int")) := by
  refine ⟨⟨_, rfl⟩, ?_, rfl, rfl⟩
  have known : (Course.run []).stateAt "xyz" = .ok .vacant := rfl
  rw [Call.answerOutcome, Course.outcomeReached _ known]
  have unwritten : Identity.canonical? Settings.trial.bounds (.int Text.leastOverlong) =
      .error (.misfit .overlong) := by
    simp [Identity.canonical?, Json.isWritable, Text.overlongUnspellable]
  have decided : (State.vacant.start (.canonical Settings.trial.bounds)
      (.setInitialAdmin (.int Text.leastOverlong))).1 = .error (.misfit .overlong) := by
    simp [State.start, State.planStart, State.admin, carryOut, Plan.carryOut, Validator.validate,
      unwritten, Except.map]
  simp only [Call.verdict, Call.onConsole, Mutation.supported, Request.startsRole, if_true,
    Mutation.judge, decided]
  rfl

end FlatRole

end Handover

import Handover.Proofs.LostEntry

/-!
Calls that change a role. The two entry points differ in the requests they take, in what they answer
and in the entries they note; all else is the mutation of the record. So a call has an outcome, which is
the mutation's, and an answer, which is lost if the log cannot take the entry of that outcome.
-/
namespace Handover

inductive Mutation
  | establish (r : Request)
  | update (caller : Option Party) (r : Request)
  deriving DecidableEq

namespace Mutation

def request : Mutation → Request
  | .establish r | .update _ r => r

def caller : Mutation → Option Party
  | .establish _ => none
  | .update caller _ => caller

def operation : Mutation → String
  | .establish _ => "initialize"
  | .update .. => "update"

def supported : Mutation → Bool
  | .establish r => r.startsRole
  | .update _ r => r.changesRole

def judge : Mutation → Validator → State → Except Failure State × Validator
  | .establish r, v, s => s.start v r
  | .update caller r, v, s => s.change v caller r

end Mutation

inductive Reply
  | view (v : View)
  | event (e : Event)
  deriving DecidableEq

namespace Action

variable {α : Type}

theorem returnRun {β : Type} (f : α → β) (x : Action α) (s : Site) :
    (do return f (← x) : Action β) s = ((x s).1.map f, (x s).2) := by
  cases done : x s with
  | mk result t =>
    cases result with
    | ok a => rw [bindOk _ done]; rfl
    | error e => rw [bindError _ done]; rfl

def entry (rejection : Fault → Except Audit.Loss (List Audit.Line))
    (closing : State → Except Audit.Loss (List Audit.Line)) :
    Except Failure State → Except Audit.Loss (List Audit.Line)
  | .ok next => closing next
  | .error (.fault f) => rejection f
  | .error _ => .ok []

def tell (entry : Except Failure State → Except Audit.Loss (List Audit.Line)) (reply : State → α)
    (done : Except Failure State × Site) : Except Failure α × Site :=
  match entry done.1 with
  | .ok lines => (done.1.map reply, { done.2 with log := done.2.log ++ lines })
  | .error l => (.error l.failure, done.2)

theorem tellRun (rejection : Fault → Except Audit.Loss (List Audit.Line))
    (closing : State → Except Audit.Loss (List Audit.Line)) (reply : State → α) (x : Action State)
    (s : Site) :
    (do let next ← onFault rejection x; note (closing next); return reply next : Action α) s =
      tell (entry rejection closing) reply (x s) := by
  cases done : x s with
  | mk result t =>
    cases result with
    | ok next =>
      rw [bindOk _ (onFaultOk rejection done), tell, entry]
      cases noted : closing next with
      | ok lines => rw [bindOk _ (noteRun lines t)]; rfl
      | error l => rw [bindError _ (noteLost l t)]
    | error e =>
      cases e with
      | fault f =>
        have failed := onFaultFault rejection done
        rw [tell, entry]
        cases noted : rejection f with
        | ok lines =>
          rw [noted, failNoting, bindOk _ (noteRun lines t)] at failed
          rw [bindError _ failed]; rfl
        | error l =>
          rw [noted, failNoting, bindError _ (noteLost l t)] at failed
          rw [bindError _ failed]
      | _ =>
        rw [bindError _ (onFaultOther rejection done fun f same => by cases same), tell]
        simp only [entry, List.append_nil, Except.map]

theorem tellMap {β : Type} (entry : Except Failure State → Except Audit.Loss (List Audit.Line))
    (reply : State → α) (wrap : α → β) {y : Action α} {s : Site} {r : Except Failure State × Site}
    (ran : y s = tell entry reply r) :
    (do return wrap (← y) : Action β) s = tell entry (fun next => wrap (reply next)) r := by
  obtain ⟨result, t⟩ := r
  cases noted : entry result with
  | ok lines =>
    rw [tell, noted] at ran ⊢
    cases result with
    | ok next => rw [bindOk _ ran]; rfl
    | error e => rw [bindError _ ran]; rfl
  | error l =>
    rw [tell, noted] at ran ⊢
    rw [bindError _ ran]

theorem tellStore (entry : Except Failure State → Except Audit.Loss (List Audit.Line))
    (reply : State → α) (done : Except Failure State × Site) :
    (tell entry reply done).2.store = done.2.store := by
  unfold tell
  split <;> rfl

theorem tellValidator (entry : Except Failure State → Except Audit.Loss (List Audit.Line))
    (reply : State → α) (done : Except Failure State × Site) :
    (tell entry reply done).2.validator = done.2.validator := by
  unfold tell
  split <;> rfl

end Action

structure Call where
  service : Service
  host : Host
  validator : Validator
  asked : Mutation

namespace Call

variable (c : Call)

def perform : Action Reply :=
  match c.asked with
  | .establish r => do return .view (← c.service.establish c.host r)
  | .update caller r => do return .event (← c.service.update c.host caller r)

def site (s : Store) : Site := ⟨s, c.validator, []⟩

def answer (s : Store) : Except Failure Reply := (c.perform (c.site s)).1

def after (s : Store) : Store := (c.perform (c.site s)).2.store

def unsupported : Failure := .fault (.unsupported c.asked.operation c.asked.request.kind)

def mutation : Action State :=
  if c.asked.supported then c.service.mutate c.host c.asked.judge else .fail c.unsupported

/-- What the mutation comes to: the next state, if it is kept. -/
def outcome (s : Store) : Except Failure State := (c.mutation (c.site s)).1

def reply (next : State) : Reply :=
  match c.asked with
  | .establish _ => .view next.view
  | .update caller r => .event (.ofState c.service.ns r next caller)

def logger : Audit.Logger :=
  c.service.logger.ofRequest c.host.around.active c.asked.operation c.asked.request c.asked.caller

def closing (next : State) : Except Audit.Loss (List Audit.Line) :=
  match c.asked with
  | .establish _ => c.logger.log c.host.around .info "admin_initialized"
      [("admin", .ofText? next.view.admin), ("abolished", .bool next.isAbolished)]
  | .update .. => c.logger.log c.host.around .info "admin_updated"
      [("admin", .ofText? next.view.admin), ("proposed", .ofText? next.view.proposed)]

def rejection (f : Fault) : Except Audit.Loss (List Audit.Line) :=
  match c.asked with
  | .establish _ => c.logger.rejection c.host.around "admin_init_rejected" f
  | .update .. => c.logger.rejection c.host.around "admin_update_rejected" f

/-- What the call notes of its mutation. A request outside the family leaves no entry. -/
def entry (verdict : Except Failure State) : Except Audit.Loss (List Audit.Line) :=
  if c.asked.supported then Action.entry c.rejection c.closing verdict else .ok []

/-- What goes out for a verdict: the reply or the failure, unless the log cannot take the entry. -/
def answerTo (verdict : Except Failure State) : Except Failure Reply :=
  match c.entry verdict with
  | .ok _ => verdict.map c.reply
  | .error l => .error l.failure

/-- The log takes what the call notes of a verdict. -/
def Told (verdict : Except Failure State) : Prop := ∃ lines, c.entry verdict = .ok lines

/-- Nothing is bound around the call, or by its logger, that a log could fail over. -/
def Legible : Prop := Audit.Legible c.host.around.fields ∧ Audit.Legible c.service.logger.fields

theorem mutationUnsupported {c : Call} (s : Site) (h : c.asked.supported = false) :
    c.mutation s = (.error c.unsupported, s) := by
  rw [mutation, h]
  rfl

theorem performUnsupported {c : Call} (s : Site) (h : c.asked.supported = false) :
    c.perform s = (.error c.unsupported, s) := by
  obtain ⟨service, host, validator, asked⟩ := c
  cases asked with
  | establish r =>
    have outside : r.startsRole = false := h
    simp only [perform, Service.establish, outside]
    rfl
  | update caller r =>
    have outside : r.changesRole = false := h
    simp only [perform, Service.update, outside]
    rfl

theorem performSupported {c : Call} (s : Site) (h : c.asked.supported = true) :
    c.perform s = Action.tell (Action.entry c.rejection c.closing) c.reply (c.mutation s) := by
  obtain ⟨service, host, validator, asked⟩ := c
  cases asked with
  | establish r =>
    have inside : r.startsRole = true := h
    have ran := Action.tellRun (rejection ⟨service, host, validator, .establish r⟩)
      (closing ⟨service, host, validator, .establish r⟩) State.view
      (service.mutate host fun v s => s.start v r) s
    simp only [perform, mutation, Mutation.supported, inside, if_true]
    refine Action.tellMap _ _ Reply.view ?_
    simp only [Service.establish, inside, Bool.not_true, Bool.false_eq_true, if_false]
    exact ran
  | update caller r =>
    have inside : r.changesRole = true := h
    have ran := Action.tellRun (rejection ⟨service, host, validator, .update caller r⟩)
      (closing ⟨service, host, validator, .update caller r⟩)
      (fun next => Event.ofState service.ns r next caller)
      (service.mutate host fun v s => s.change v caller r) s
    simp only [perform, mutation, Mutation.supported, inside, if_true]
    refine Action.tellMap _ _ Reply.event ?_
    simp only [Service.update, inside, Bool.not_true, Bool.false_eq_true, if_false]
    exact ran

theorem performTold (c : Call) (s : Site) :
    c.perform s = Action.tell c.entry c.reply (c.mutation s) := by
  cases h : c.asked.supported with
  | false =>
    rw [performUnsupported s h, mutationUnsupported s h, Action.tell, entry, h]
    simp only [Bool.false_eq_true, if_false, List.append_nil, Except.map]
  | true =>
    have same : c.entry = Action.entry c.rejection c.closing := by
      funext verdict
      rw [entry, h, if_pos rfl]
    rw [performSupported s h, same]

theorem afterMutation (c : Call) (s : Store) : c.after s = (c.mutation (c.site s)).2.store := by
  rw [after, performTold, Action.tellStore]

theorem answerOutcome (c : Call) (s : Store) : c.answer s = c.answerTo (c.outcome s) := by
  rw [answer, performTold, Action.tell, answerTo, outcome]
  split <;> rfl

variable {c}

theorem answerTold {verdict : Except Failure State} (told : c.Told verdict) :
    c.answerTo verdict = verdict.map c.reply := by
  obtain ⟨lines, noted⟩ := told
  rw [answerTo, noted]

theorem answerFailed {s : Store} {e : Failure} (failed : c.answer s = .error e) :
    (∃ e', c.outcome s = .error e') ∨
      ∃ next l, c.outcome s = .ok next ∧ c.entry (.ok next) = .error l ∧ e = l.failure := by
  cases settled : c.outcome s with
  | error e' => exact Or.inl ⟨e', rfl⟩
  | ok next =>
    rw [answerOutcome, settled, answerTo] at failed
    cases noted : c.entry (.ok next) with
    | ok lines => rw [noted] at failed; cases failed
    | error l =>
      rw [noted] at failed
      cases failed
      exact Or.inr ⟨next, l, rfl, noted, rfl⟩

theorem entryTake {verdict : Except Failure State} {l : Audit.Loss} (lost : c.entry verdict = .error l) :
    ∃ trace level event own, Audit.Legible own ∧
      c.logger.journal.take c.host.around trace (c.logger.entry level event own) = .error l := by
  have flag (b : Bool) : Audit.legible ("abolished", .bool b) = true := by cases b <;> rfl
  unfold entry at lost
  split at lost
  · unfold Action.entry at lost
    split at lost
    · unfold closing at lost
      split at lost
      · exact ⟨_, _, _, _, by simp [Audit.Legible, Audit.legibleOfText, flag], lost⟩
      · exact ⟨_, _, _, _, by simp [Audit.Legible, Audit.legibleOfText], lost⟩
    · unfold rejection at lost
      split at lost <;> exact ⟨_, _, _, _, by simp [Audit.Legible, Audit.legibleText], lost⟩
    · cases lost
  · cases lost

theorem entryBlamed {verdict : Except Failure State} {l : Audit.Loss} (lost : c.entry verdict = .error l) :
    ∃ settings e, c.service.logger.journal = .written settings ∧
      Audit.Blame settings (Audit.complete settings c.host.around e) l := by
  obtain ⟨trace, level, event, own, -, taken⟩ := entryTake lost
  obtain ⟨settings, written, blame⟩ := Audit.takeLost taken
  exact ⟨settings, _, written, blame⟩

theorem toldLegible (legible : c.Legible) (verdict : Except Failure State) : c.Told verdict := by
  cases noted : c.entry verdict with
  | ok lines => exact ⟨lines, noted⟩
  | error l =>
    obtain ⟨trace, level, event, own, given, taken⟩ := entryTake noted
    have whole : Audit.Legible (c.logger.entry level event own).fields :=
      Audit.legiblePutAll given (Audit.legibleRequest legible.2 _ _ _ _)
    obtain ⟨lines, kept⟩ := Audit.takesLegible c.logger.journal trace legible.1 whole
    rw [kept] at taken
    cases taken

def onConsole (bound : Audit.Fields) (asked : Mutation) : Call :=
  ⟨.console, .console bound, .canonical Settings.trial.bounds, asked⟩

theorem legibleConsole {bound : Audit.Fields} {asked : Mutation} (legible : Audit.Legible bound) :
    (onConsole bound asked).Legible :=
  ⟨legible, Audit.legibleMade _ _ _ _⟩

end Call

end Handover

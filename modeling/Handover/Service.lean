import Handover.Audit.Attribution
import Handover.Role.Event
import Handover.Role.Transition
import Handover.Store.Basic
import Handover.Wire.Response

/-!
The service of one role: it loads the record of its namespace, decides, and keeps the new record, all
inside a transaction of that namespace. Whatever a store, a validator or the log takes note of stays
noted when a call fails; only the record is rolled back. An entry that cannot be noted fails the call
in place of its answer, but does not undo what was kept.
-/
namespace Handover

structure Site where
  store : Store
  validator : Validator
  log : List Audit.Line
  deriving DecidableEq

/-- A computation on a site that can fail; the site after a failure matters too. -/
def Action (α : Type) : Type := Site → Except Failure α × Site

namespace Action

variable {α β : Type}

protected def pure (a : α) : Action α := fun s => (.ok a, s)

protected def bind (x : Action α) (f : α → Action β) : Action β := fun s =>
  match x s with
  | (.ok a, s) => f a s
  | (.error e, s) => (.error e, s)

instance : Monad Action where
  pure := Action.pure
  bind := Action.bind

def fail (e : Failure) : Action α := fun s => (.error e, s)

def note (lines : Except Audit.Loss (List Audit.Line)) : Action Unit := fun s =>
  match lines with
  | .ok lines => (.ok (), { s with log := s.log ++ lines })
  | .error l => (.error l.failure, s)

def transact (ns : String) (x : Action α) : Action α := fun s =>
  match x { s with store := s.store.enter } with
  | (.ok a, t) => (.ok a, t)
  | (.error e, t) => (.error e, { t with store := t.store.rollback s.store ns })

def failNoting (f : Fault) (lines : Except Audit.Loss (List Audit.Line)) : Action α := do
  note lines
  fail (.fault f)

def onFault (lines : Fault → Except Audit.Loss (List Audit.Line)) (x : Action α) : Action α := fun s =>
  match x s with
  | (.error (.fault f), t) => failNoting f (lines f) t
  | r => r

theorem bindOk {x : Action α} (f : α → Action β) {s t : Site} {a : α} (done : x s = (.ok a, t)) :
    (x >>= f) s = f a t := by
  change Action.bind x f s = _
  rw [Action.bind, done]

theorem bindError {x : Action α} (f : α → Action β) {s t : Site} {e : Failure}
    (done : x s = (.error e, t)) : (x >>= f) s = (.error e, t) := by
  change Action.bind x f s = _
  rw [Action.bind, done]

theorem onFaultOk (lines : Fault → Except Audit.Loss (List Audit.Line)) {x : Action α} {s t : Site}
    {a : α} (done : x s = (.ok a, t)) : onFault lines x s = (.ok a, t) := by
  rw [onFault, done]

theorem onFaultFault (lines : Fault → Except Audit.Loss (List Audit.Line)) {x : Action α} {s t : Site}
    {f : Fault} (done : x s = (.error (.fault f), t)) :
    onFault lines x s = failNoting f (lines f) t := by
  rw [onFault, done]

theorem onFaultOther (lines : Fault → Except Audit.Loss (List Audit.Line)) {x : Action α} {s t : Site}
    {e : Failure} (done : x s = (.error e, t)) (other : ∀ f, e ≠ .fault f) :
    onFault lines x s = (.error e, t) := by
  rw [onFault, done]
  cases e with
  | fault f => exact (other f rfl).elim
  | _ => rfl

theorem noteRun (lines : List Audit.Line) (s : Site) :
    note (.ok lines) s = (.ok (), { s with log := s.log ++ lines }) := rfl

theorem noteLost (l : Audit.Loss) (s : Site) : note (.error l) s = (.error l.failure, s) := rfl

end Action

structure Host where
  journal : Audit.Journal
  around : Audit.Surroundings
  deriving DecidableEq

structure Service where
  ns : String
  logger : Audit.Logger
  deriving DecidableEq

def Host.load (h : Host) (ns : String) : Action (Option Record) := fun s =>
  let (found, store) := s.store.get ns
  let s := { s with store }
  match found with
  | .ok r => (.ok r, s)
  | .error f => Action.failNoting f (h.journal.decodeFailure h.around f) s

def State.keep (next : State) (ns : String) : Action Unit := fun s =>
  match next.toRecord with
  | .error flaw => (.error (.fault (.record flaw)), s)
  | .ok r =>
    match s.store.set ns r with
    | .error e => (.error e, s)
    | .ok store => (.ok (), { s with store })

def Action.decide (d : Validator → Except Failure State × Validator) : Action State := fun s =>
  ((d s.validator).1, { s with validator := (d s.validator).2 })

structure Survey where
  admin : Option Party
  proposed : Option Party
  abolished : Bool
  view : View
  response : Wire.Response
  deriving DecidableEq

namespace Service

def logName : String := "SecureAdminService"

def make (journal : Audit.Journal) (ns : String) : Except Misfit Service :=
  if ns = "" then .error .noNamespace
  else .ok ⟨ns, .ofService journal logName Audit.defaultComponent ns⟩

variable (svc : Service) (h : Host)

def state : Action State := do
  return State.ofRecord (← h.load svc.ns)

def currentAdmin : Action (Option Party) := do
  return (← svc.state h).admin

def proposedAdmin : Action (Option Party) := do
  return (← svc.state h).proposed

def isAbolished : Action Bool := do
  return (← svc.state h).isAbolished

def view : Action View := do
  return (← svc.state h).view

def isAdmin (who : Option Party) : Action Bool := do
  let admin ← svc.currentAdmin h
  return admin ≠ none ∧ admin = who

def isProposed (who : Option Party) : Action Bool := do
  let proposed ← svc.proposedAdmin h
  return proposed ≠ none ∧ proposed = who

def assertAdmin (who : Option Party) : Action Unit := do
  if ← svc.isAdmin h who then return () else .fail (.fault .notAdmin)

def assertProposed (who : Option Party) : Action Unit := do
  if ← svc.isProposed h who then return () else .fail (.fault .notProposed)

def survey : Action Survey := do
  let admin ← svc.currentAdmin h
  let proposed ← svc.proposedAdmin h
  let abolished ← svc.isAbolished h
  let view ← svc.view h
  let again ← svc.view h
  return ⟨admin, proposed, abolished, view, .ofView again⟩

def mutate (d : Validator → State → Except Failure State × Validator) : Action State :=
  .transact svc.ns do
    let s ← svc.state h
    let next ← .decide fun v => d v s
    next.keep svc.ns
    return next

def establish (r : Request) : Action View :=
  if !r.startsRole then .fail (.fault (.unsupported "initialize" r.kind))
  else
    let log := svc.logger.ofRequest h.around.active "initialize" r none
    do
      let next ← Action.onFault (log.rejection h.around "admin_init_rejected")
        (svc.mutate h fun v s => s.start v r)
      .note (log.log h.around .info "admin_initialized"
        [("admin", .ofText? next.view.admin), ("abolished", .bool next.isAbolished)])
      return next.view

def update (caller : Option Party) (r : Request) : Action Event :=
  if !r.changesRole then .fail (.fault (.unsupported "update" r.kind))
  else
    let log := svc.logger.ofRequest h.around.active "update" r caller
    do
      let next ← Action.onFault (log.rejection h.around "admin_update_rejected")
        (svc.mutate h fun v s => s.change v caller r)
      let event := Event.ofState svc.ns r next caller
      .note (log.log h.around .info "admin_updated"
        [("admin", .ofText? event.admin), ("proposed", .ofText? event.proposed)])
      return event

end Service

end Handover

import Handover.Proofs.Confined
import Handover.Proofs.Refusal

/-!
Damaged records. Every way into a service loads the record of its namespace before it decides anything. So
over bytes that do not read each of them fails for the reason that the bytes do not read, and none of them
moves the bytes. A log that cannot take the entry of that failure puts its own in its place.
-/
namespace Handover

inductive Errand
  | change (asked : Mutation)
  | currentAdmin
  | proposedAdmin
  | isAbolished
  | view
  | isAdmin (who : Option Party)
  | isProposed (who : Option Party)
  | assertAdmin (who : Option Party)
  | assertProposed (who : Option Party)

inductive Finding
  | reply (r : Reply)
  | party (p : Option Party)
  | flag (b : Bool)
  | view (v : View)
  | nothing

structure Visit where
  service : Service
  host : Host
  validator : Validator
  errand : Errand

namespace Visit

variable (v : Visit)

def call (asked : Mutation) : Call := ⟨v.service, v.host, v.validator, asked⟩

def perform : Action Finding :=
  match v.errand with
  | .change asked => do return .reply (← (v.call asked).perform)
  | .currentAdmin => do return .party (← v.service.currentAdmin v.host)
  | .proposedAdmin => do return .party (← v.service.proposedAdmin v.host)
  | .isAbolished => do return .flag (← v.service.isAbolished v.host)
  | .view => do return .view (← v.service.view v.host)
  | .isAdmin who => do return .flag (← v.service.isAdmin v.host who)
  | .isProposed who => do return .flag (← v.service.isProposed v.host who)
  | .assertAdmin who => do v.service.assertAdmin v.host who; return .nothing
  | .assertProposed who => do v.service.assertProposed v.host who; return .nothing

def proper : Bool :=
  match v.errand with
  | .change asked => asked.supported
  | _ => true

def site (s : Store) : Site := ⟨s, v.validator, []⟩

def answer (s : Store) : Except Failure Finding := (v.perform (v.site s)).1

def after (s : Store) : Store := (v.perform (v.site s)).2.store

def run (s : Store) (visits : List Visit) : Store := visits.foldl (fun s v => v.after s) s

end Visit

def Host.damage (h : Host) (f : Fault) : Failure :=
  match h.journal.decodeFailure h.around f with
  | .ok _ => .fault f
  | .error l => l.failure

/-- What a mutation of a damaged record fails with: the fault is noted once more, as a refusal. -/
def Call.damage (c : Call) (f : Fault) : Failure :=
  match c.host.journal.decodeFailure c.host.around f with
  | .ok _ =>
    match c.rejection f with
    | .ok _ => .fault f
    | .error l => l.failure
  | .error l => l.failure

def Visit.failure (v : Visit) (f : Fault) : Failure :=
  match v.errand with
  | .change asked => (v.call asked).damage f
  | _ => v.host.damage f

namespace Action

variable {α β : Type} {s : Site} {e : Failure}

theorem bindFails {x : Action α} (f : α → Action β) (failed : (x s).1 = .error e) :
    ((x >>= f) s).1 = .error e := by
  cases done : x s with
  | mk result t =>
    rw [done] at failed
    obtain rfl : result = .error e := failed
    rw [bindError f done]

theorem transactFails {ns : String} {x : Action α}
    (failed : (x { s with store := s.store.enter }).1 = .error e) :
    (transact ns x s).1 = .error e := by
  unfold transact
  cases done : x { s with store := s.store.enter } with
  | mk result t =>
    rw [done] at failed
    obtain rfl : result = .error e := failed
    rfl

end Action

section
variable {svc : Service} {h : Host} {who : Option Party} {s : Site} {f : Fault}

theorem loadDamaged {ns : String} (damaged : (s.store.get ns).1 = .error f) :
    (h.load ns s).1 = .error (h.damage f) := by
  simp only [Host.load, damaged, Host.damage]
  cases h.journal.decodeFailure h.around f <;> rfl

namespace Service

theorem stateDamaged (damaged : (s.store.get svc.ns).1 = .error f) :
    (svc.state h s).1 = .error (h.damage f) :=
  Action.bindFails _ (loadDamaged damaged)

theorem currentAdminDamaged (damaged : (s.store.get svc.ns).1 = .error f) :
    (svc.currentAdmin h s).1 = .error (h.damage f) :=
  Action.bindFails _ (stateDamaged damaged)

theorem proposedAdminDamaged (damaged : (s.store.get svc.ns).1 = .error f) :
    (svc.proposedAdmin h s).1 = .error (h.damage f) :=
  Action.bindFails _ (stateDamaged damaged)

theorem isAdminDamaged (damaged : (s.store.get svc.ns).1 = .error f) :
    (svc.isAdmin h who s).1 = .error (h.damage f) :=
  Action.bindFails _ (currentAdminDamaged damaged)

theorem isProposedDamaged (damaged : (s.store.get svc.ns).1 = .error f) :
    (svc.isProposed h who s).1 = .error (h.damage f) :=
  Action.bindFails _ (proposedAdminDamaged damaged)

theorem mutateDamaged {d : Validator → State → Except Failure State × Validator}
    (damaged : (s.store.get svc.ns).1 = .error f) :
    (svc.mutate h d s).1 = .error (h.damage f) := by
  have inside : (s.store.enter.get svc.ns).1 = .error f := by
    rw [Store.getAlike (Store.modeEnter s.store) (Store.cellEnter s.store svc.ns)]
    exact damaged
  exact Action.transactFails (Action.bindFails _ (stateDamaged inside))

end Service

end

namespace Call

theorem outcomeDamaged {c : Call} {s : Store} {f : Fault} (inside : c.asked.supported = true)
    (damaged : (s.get c.service.ns).1 = .error f) : c.outcome s = .error (c.host.damage f) := by
  rw [outcome, mutation, if_pos inside]
  exact Service.mutateDamaged damaged

theorem answerDamaged {c : Call} {s : Store} {f : Fault} (inside : c.asked.supported = true)
    (damaged : (s.get c.service.ns).1 = .error f) : c.answer s = .error (c.damage f) := by
  rw [answerOutcome, outcomeDamaged inside damaged, answerTo, entry, if_pos inside, damage, Host.damage]
  cases c.host.journal.decodeFailure c.host.around f with
  | ok lines =>
    simp only [Action.entry]
    cases c.rejection f <;> rfl
  | error l => cases l <;> rfl

theorem keptNowhere {c : Call} {s : Store} {f : Fault}
    (damaged : (s.get c.service.ns).1 = .error f) : ∃ e, c.outcome s = .error e := by
  by_cases inside : c.asked.supported = true
  · exact ⟨_, outcomeDamaged inside damaged⟩
  · have outside : c.asked.supported = false := by simpa using inside
    exact ⟨_, by rw [outcome, mutationUnsupported _ outside]⟩

end Call

def Host.Told (h : Host) (f : Fault) : Prop := ∃ lines, h.journal.decodeFailure h.around f = .ok lines

theorem Host.damageTold {h : Host} {f : Fault} (told : h.Told f) : h.damage f = .fault f := by
  obtain ⟨lines, noted⟩ := told
  rw [damage, noted]

theorem Call.damageTold {c : Call} {f : Fault} (inside : c.asked.supported = true) (loaded : c.host.Told f)
    (refused : c.Told (.error (.fault f))) : c.damage f = .fault f := by
  obtain ⟨lines, loaded⟩ := loaded
  obtain ⟨more, refused⟩ := refused
  rw [entry, if_pos inside, Action.entry] at refused
  rw [damage, loaded, refused]

namespace Visit

variable {v : Visit} {s : Store} {f : Fault}

def Told (v : Visit) (f : Fault) : Prop :=
  v.host.Told f ∧ ∀ asked, v.errand = .change asked → (v.call asked).Told (.error (.fault f))

theorem failureTold (proper : v.proper = true) (told : v.Told f) : v.failure f = .fault f := by
  obtain ⟨svc, h, validator, errand⟩ := v
  obtain ⟨loaded, refused⟩ := told
  cases errand with
  | change asked =>
    exact Call.damageTold (c := ⟨svc, h, validator, asked⟩) proper loaded (refused asked rfl)
  | _ => exact Host.damageTold loaded

theorem toldLegible (outer : Audit.Legible v.host.around.fields)
    (bound : Audit.Legible v.service.logger.fields)
    (counted : ∀ ns issues, f = .storage ns (.corrupt issues) → Text.isSpellable issues = true) :
    v.Told f :=
  ⟨Audit.decodeFailureTaken v.host.journal outer counted,
    fun asked _ => Call.toldLegible (c := v.call asked) ⟨outer, bound⟩ _⟩

theorem performConfined (v : Visit) : v.perform.Confined v.service.ns := by
  obtain ⟨svc, h, validator, errand⟩ := v
  cases errand <;> refine Action.confinedBind ?_ fun _ => Action.confinedPure _
  case change asked => exact Call.performConfined ⟨svc, h, validator, asked⟩
  case currentAdmin => exact svc.currentAdminConfined h
  case proposedAdmin => exact svc.proposedAdminConfined h
  case isAbolished => exact svc.isAbolishedConfined h
  case view => exact svc.viewConfined h
  case isAdmin who => exact svc.isAdminConfined h who
  case isProposed who => exact svc.isProposedConfined h who
  case assertAdmin who => exact svc.assertAdminConfined h who
  case assertProposed who => exact svc.assertProposedConfined h who

theorem answerDamaged (proper : v.proper = true) (damaged : (s.get v.service.ns).1 = .error f) :
    v.answer s = .error (v.failure f) := by
  obtain ⟨svc, h, validator, errand⟩ := v
  have site : ((Site.mk s validator []).store.get svc.ns).1 = .error f := damaged
  cases errand with
  | change asked =>
    exact Action.bindFails _ (Call.answerDamaged (c := ⟨svc, h, validator, asked⟩) proper damaged)
  | currentAdmin => exact Action.bindFails _ (Service.currentAdminDamaged site)
  | proposedAdmin => exact Action.bindFails _ (Service.proposedAdminDamaged site)
  | isAbolished => exact Action.bindFails _ (Action.bindFails _ (Service.stateDamaged site))
  | view => exact Action.bindFails _ (Action.bindFails _ (Service.stateDamaged site))
  | isAdmin who => exact Action.bindFails _ (Service.isAdminDamaged site)
  | isProposed who => exact Action.bindFails _ (Service.isProposedDamaged site)
  | assertAdmin who => exact Action.bindFails _ (Action.bindFails _ (Service.isAdminDamaged site))
  | assertProposed who =>
    exact Action.bindFails _ (Action.bindFails _ (Service.isProposedDamaged site))

theorem afterChange (svc : Service) (h : Host) (validator : Validator) (asked : Mutation) (s : Store) :
    (Visit.mk svc h validator (.change asked)).after s = (Call.mk svc h validator asked).after s := by
  let c : Call := ⟨svc, h, validator, asked⟩
  exact congrArg (fun done => done.2.store) (Action.returnRun Finding.reply c.perform (c.site s))

theorem afterDamaged (v : Visit) (damaged : (s.get v.service.ns).1 = .error f) :
    (v.after s).content = s.content := by
  obtain ⟨svc, h, validator, errand⟩ := v
  have question {α : Type} {x : Action α} (g : α → Finding) (only : x.Reads) :
      ((x >>= fun a => pure (g a) : Action Finding) ⟨s, validator, []⟩).2.store.content = s.content :=
    Action.readsBind only (fun _ => Action.readsPure _) ⟨s, validator, []⟩
  cases errand with
  | change asked =>
    obtain ⟨e, refused⟩ := Call.keptNowhere (c := ⟨svc, h, validator, asked⟩) damaged
    rw [afterChange]
    exact Call.refusedKeepsContent refused
  | currentAdmin => exact question .party (svc.currentAdminReads h)
  | proposedAdmin => exact question .party (svc.proposedAdminReads h)
  | isAbolished => exact question .flag (svc.isAbolishedReads h)
  | view => exact question .view (svc.viewReads h)
  | isAdmin who => exact question .flag (svc.isAdminReads h who)
  | isProposed who => exact question .flag (svc.isProposedReads h who)
  | assertAdmin who => exact question (fun _ => .nothing) (svc.assertAdminReads h who)
  | assertProposed who => exact question (fun _ => .nothing) (svc.assertProposedReads h who)

theorem afterKeepsDamage {ns : String} (v : Visit) (damaged : (s.get ns).1 = .error f) :
    (v.after s).mode = s.mode ∧ (v.after s).cell? ns = s.cell? ns := by
  by_cases own : ns = v.service.ns
  · subst own
    have same := Store.contentCells (v.afterDamaged damaged)
    exact ⟨same.1, same.2 _⟩
  · have spared := v.performConfined.spares (v.site s)
    exact ⟨spared.mode, spared.others ns own⟩

theorem runKeepsDamage {ns : String} (visits : List Visit) (damaged : (s.get ns).1 = .error f) :
    (run s visits).mode = s.mode ∧ (run s visits).cell? ns = s.cell? ns := by
  induction visits generalizing s with
  | nil => exact ⟨rfl, rfl⟩
  | cons v rest ih =>
    obtain ⟨mode, cell⟩ := v.afterKeepsDamage damaged
    have still : ((v.after s).get ns).1 = .error f := (Store.getAlike mode cell).trans damaged
    obtain ⟨mode', cell'⟩ := ih still
    exact ⟨mode'.trans mode, cell'.trans cell⟩

/-- Bytes that do not read, once planted, outlast every run of visits. No mutation of their namespace is
kept, and every proper visit fails: for the reason that they do not read, where the log can take that. -/
theorem damageFailsClosed (b : ByteStore) {ns : String} {raw : ByteArray} {f : Fault}
    (damaged : (b.plant ns raw).get ns = .error f) (visits : List Visit) :
    let s := run (.bytes (b.plant ns raw)) visits
    s.bytes? ns = some raw ∧
    ((∃ issues, f = .storage ns (.corrupt issues)) ∨ ∃ flaw, f = .record flaw) ∧
    (∀ c : Call, c.service.ns = ns → ∃ e, c.outcome s = .error e) ∧
    ∀ v : Visit, v.service.ns = ns → v.proper = true →
      (∃ e, v.answer s = .error e) ∧ (v.Told f → v.answer s = .error (.fault f)) := by
  intro s
  have planted : ((Store.bytes (b.plant ns raw)).get ns).1 = .error f := damaged
  obtain ⟨mode, cell⟩ := runKeepsDamage visits planted
  have still : (s.get ns).1 = .error f := (Store.getAlike mode cell).trans planted
  refine ⟨?_, damageKinds damaged, ?_, ?_⟩
  · rw [Store.bytesAlike mode cell]
    exact Table.getPutSelf ns raw b.cells
  · rintro c rfl
    exact Call.keptNowhere still
  · rintro v rfl proper
    have failed := answerDamaged proper still
    exact ⟨⟨_, failed⟩, fun told => by rw [failed, failureTold proper told]⟩

def onConsole (errand : Errand) : Visit :=
  ⟨.console, .console [], .canonical Settings.trial.bounds, errand⟩

theorem braceOutlastsTakeover :
    let s := run (.bytes (ByteStore.empty.plant "xyz" "\x7b".toUTF8))
      [onConsole (.change (.establish (.setInitialAdmin (.string "peter"))))]
    s.bytes? "xyz" = some "\x7b".toUTF8 ∧
      (onConsole .currentAdmin).answer s = .error (.fault (.storage "xyz" (.corrupt 1))) := by
  intro s
  have damaged : (ByteStore.empty.plant "xyz" "\x7b".toUTF8).get "xyz" =
      .error (.storage "xyz" (.corrupt 1)) := rfl
  obtain ⟨bytes, -, -, visits⟩ := damageFailsClosed .empty damaged
    [onConsole (.change (.establish (.setInitialAdmin (.string "peter"))))]
  refine ⟨bytes, (visits (onConsole .currentAdmin) rfl rfl).2 (toldLegible ?_ ?_ ?_)⟩
  · exact Audit.legibleNone
  · exact Audit.legibleMade _ _ _ _
  · rintro ns issues ⟨⟩
    decide

end Visit

end Handover

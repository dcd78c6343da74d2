import Handover.Session.World

/-!
Running a session. A step that fails does not stop the session, but what it changed before it failed
stays changed, unless a transaction takes it back.
-/
namespace Handover.Session

namespace World

def answering (w : World) (a : Except Failure Answer) : Except Failure Answer × World := (a, w)

def changing (w : World) (next : Except Failure World) : Except Failure Answer × World :=
  match next with
  | .ok next => (.ok .nothing, next)
  | .error e => (.error e, w)

def serving {α : Type} (w : World) (name : String) (x : Service → Host → Action α)
    (f : α → Answer) : Except Failure Answer × World :=
  ((w.serve name x).1.map f, (w.serve name x).2)

def servingParty {α : Type} (w : World) (name : String) (who : Json)
    (x : Service → Host → Option Party → Action α) (f : α → Answer) :
    Except Failure Answer × World :=
  match readParty who with
  | .error e => (.error e, w)
  | .ok p => w.serving name (fun svc h => x svc h p) f

def settings (w : World) (draft : Option Draft) : Except Failure Settings :=
  (match draft with
    | some d => Settings.ofDraft d
    | none => Settings.ofEnvironment w.environment).mapError .misfit

def bindService (w : World) (name ns : String) (store validator : Nat) :
    Except Failure Answer × World :=
  match Service.make w.journal ns with
  | .error m => (.error (.misfit m), w)
  | .ok svc =>
    (.ok (.text ns), { w with services := Table.put name ⟨svc, store, validator⟩ w.services })

def bootstrap (w : World) (name : String) (draft : Option Draft) (store validator : Option String) :
    Except Failure Answer × World :=
  match w.settings draft with
  | .error e => (.error e, w)
  | .ok settings =>
    let given : Except Failure (Nat × World) := match store with
      | some n => (w.store n).map fun s => (s.1, w)
      | none => .ok w.shareOnDemand
    match given with
    | .error e => (.error e, w)
    | .ok (i, w) =>
      let given : Except Failure (Nat × World) := match validator with
        | some n => (w.validator n).map fun v => (v.1, w)
        | none => .ok (w.addValidator (.canonical settings.bounds))
      match given with
      | .error e => (.error e, w)
      | .ok (j, w) => w.bindService name settings.ns i j

def getRecord (w : World) (name ns : String) : Except Failure Answer × World :=
  match w.store name with
  | .error e => (.error e, w)
  | .ok (i, s) =>
    let (found, site) := w.host.load ns ⟨s, .fresh, []⟩
    (found.map .record, (w.putStore i site.store).note site.log)

def changeStore (w : World) (name : String) (f : Store → Except Failure Store) :
    Except Failure Answer × World :=
  w.changing do
    let (i, s) ← w.store name
    return w.putStore i (← f s)

def validateRaw (w : World) (name : String) (raw : Json) : Except Failure Answer × World :=
  match w.validator name with
  | .error e => (.error e, w)
  | .ok (i, v) => ((v.validate raw).1.map fun x => .text x.name, w.putValidator i (v.validate raw).2)

def logRequest (w : World) (service ns component operation : String) (r : Submission)
    (sender : Json) (event : String) : Except Failure Answer × World :=
  w.changing do
    let r ← r.request
    let sender ← readParty sender
    let log := Audit.Logger.ofService w.journal service component ns
    let log := log.ofRequest w.around.active operation r sender
    return w.note (← (log.log w.around .info event []).mapError Audit.Loss.failure)

def perform (w : World) : Act → Except Failure Answer × World
  | .makeStore name kind =>
    let (i, w) := w.addStore (match kind with | .bytes => .bytes .empty | .plain => .plain .empty)
    (.ok .nothing, w.nameStore name i)
  | .makeValidator name kind =>
    w.changing do
      let v ← match kind with
        | .listed => .ok Validator.fresh
        | .canonical d =>
          ((Settings.ofDraft d).mapError Failure.misfit).map fun s => Validator.canonical s.bounds
      let (i, w) := w.addValidator v
      return { w with validatorNames := Table.put name i w.validatorNames }
  | .refuse name raw =>
    w.changing do
      let (i, v) ← w.validator name
      return w.putValidator i (← (v.refuse raw).mapError .mismatch)
  | .validate name raw => w.validateRaw name raw
  | .seen name => w.answering ((w.validator name).map fun v => .values v.2.seen)
  | .makeService name ns store validator =>
    match w.store store, w.validator validator with
    | .ok (i, _), .ok (j, _) => w.bindService name ns i j
    | .error e, _ | _, .error e => (.error e, w)
  | .bootstrap name draft store validator => w.bootstrap name draft store validator
  | .sharedStore name =>
    let (i, w) := w.shareOnDemand
    (match w.stores[i]? with
      | some s => .ok (.shared s (w.namesOf i))
      | none => .error (unknown name),
      w.nameStore name i)
  | .shareStore none => (.ok .nothing, { w with shared := none })
  | .shareStore (some name) =>
    w.changing ((w.store name).map fun s => { w with shared := some s.1 })
  | .environment vars => (.ok .nothing, { w with environment := vars })
  | .establish name r =>
    match r.request with
    | .error e => (.error e, w)
    | .ok r => w.serving name (fun svc h => svc.establish h r) .view
  | .update name sender r =>
    match readParty sender, r.request with
    | .ok p, .ok r => w.serving name (fun svc h => svc.update h p r) .event
    | .error e, _ | _, .error e => (.error e, w)
  | .query name => w.serving name Service.survey .survey
  | .isAdmin name who => w.servingParty name who Service.isAdmin .flag
  | .isProposed name who => w.servingParty name who Service.isProposed .flag
  | .assertAdmin name who => w.servingParty name who Service.assertAdmin fun _ => .nothing
  | .assertProposed name who => w.servingParty name who Service.assertProposed fun _ => .nothing
  | .get name ns => w.getRecord name ns
  | .set name ns r => w.changeStore name fun s => do s.set ns (← r.record)
  | .seed name ns r => w.changeStore name fun s => return s.seed ns (← r.record)
  | .raw name ns => w.answering ((w.store name).map fun s => .bytes (s.2.bytes? ns))
  | .plant name ns b => w.changeStore name fun s => .ok (s.plant ns b)
  | .namespaces name => w.answering ((w.store name).map fun s => .names s.2.namespaces)
  | .setFailures name get set => w.changeStore name fun s => .ok (s.setFailures get set)
  | .clear name => w.changeStore name fun s => .ok s.clear
  | .correlation => (.ok (.text w.around.active), w)
  | .configure draft =>
    match w.settings draft with
    | .error e => (.error e, w)
    | .ok settings => (.ok (.settings settings), { w with journal := .written settings })
  | .bindFields fields =>
    (.ok .nothing,
      { w with around := { w.around with fields := Table.putAll fields w.around.fields } })
  | .log level event fields =>
    w.changing <|
      (Audit.Logger.call ⟨w.journal, []⟩ w.around level event fields).map w.note
  | .logRequest service ns component operation r sender event =>
    w.logRequest service ns component operation r sender event

end World

def Ending.failure? (ending : Ending) (inside : Option Failure) : Option Failure :=
  if ending.propagates && inside.isSome then inside else ending.raises.map .raised

def blockAnswer : Option Failure → Except Failure Answer
  | none => .ok .nothing
  | some e => .error e

def Outcome.failure? : Outcome → Option Failure
  | .act r | .block r _ _ =>
    match r.answer with
    | .ok _ => none
    | .error e => some e

mutual

def run (w : World) : Step → Outcome × World
  | .act a =>
    let (answer, w) := w.perform a
    let (r, w) := w.report answer
    (.act r, w)
  | .transaction name ns ending steps =>
    match w.store name with
    | .error e =>
      let (r, w) := w.report (.error e)
      (.block r none [], w)
    | .ok (i, before) =>
      let (inner, inside, w) := runAll ending.propagates (w.putStore i before.enter) steps
      let failure := ending.failure? inside
      let w := match failure, w.stores[i]? with
        | some _, some now => w.putStore i (now.rollback before ns)
        | _, _ => w
      let (r, w) := w.report (blockAnswer failure)
      (.block r none inner, w)
  | .scope id ending steps =>
    let outer := w.around.active
    let active := Audit.Correlation.enter w.fresh id
    let (inner, inside, w) :=
      runAll ending.propagates { w with around := { w.around with active := active } } steps
    let w := { w with around := { w.around with active := outer } }
    let (r, w) := w.report (blockAnswer (ending.failure? inside))
    (.block r (some active) inner, w)

def runAll (stops : Bool) (w : World) : List Step → List Outcome × Option Failure × World
  | [] => ([], none, w)
  | s :: rest =>
    let (o, w) := run w s
    match stops, o.failure? with
    | true, some e => ([o], some e, w)
    | _, _ =>
      let (os, e, w) := runAll stops w rest
      (o :: os, e, w)

end

def runSession (w : World) (steps : List Step) : List Outcome := (runAll false w steps).1

end Handover.Session

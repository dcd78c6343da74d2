import Handover.Proofs.StateAlone

/-!
What a change answers and what it leaves behind. The event of an update and the view of an initialization
are made from the state in memory; a view asked for afterwards is read from the stored bytes. Over every
course of calls the two agree, and whoever sent the update stood in the place that entitles to it.
-/
namespace Handover

theorem movesEntitled {s next : State} {caller : Option Party} {r : Request}
    (moved : Moves s (.update caller r) next) :
    ∃ i : Identity, caller = some (.identity i) ∧
      (if r = .acceptProposed then s.proposed else s.admin) = caller ∧
      (r ≠ .abolishAdminRole → next.view.admin = some i.name) ∧
      (r = .abolishAdminRole → next = .abolished) := by
  cases moved with
  | propose admin proposed held =>
    exact ⟨admin, rfl, by rw [if_neg (by simp), held], fun _ => rfl, fun same => by cases same⟩
  | clear admin held =>
    exact ⟨admin, rfl, by rw [if_neg (by simp), held], fun _ => rfl, fun same => by cases same⟩
  | accept admin successor =>
    exact ⟨successor, rfl, by rw [if_pos rfl]; rfl, fun _ => rfl, fun same => by cases same⟩
  | abolish admin held =>
    exact ⟨admin, rfl, by rw [if_neg (by simp), held], fun other => (other rfl).elim, fun _ => rfl⟩

theorem Call.verdictAnswered {c : Call} {b : ByteStore} {st : State} {log : List Audit.Line} {reply : Reply}
    {t : Site} (known : b.stateAt c.service.ns = .ok st)
    (done : c.perform ⟨.bytes b, c.validator, log⟩ = (.ok reply, t)) :
    ∃ next, c.verdict st = .ok next ∧ reply = c.reply next ∧
      t.store = .bytes (b.plant c.service.ns next.form.toBytes) := by
  rw [Call.performLoaded known] at done
  cases decided : c.verdict st with
  | error e =>
    rw [decided, answerTo] at done
    split at done <;> cases done
  | ok next =>
    rw [decided, answerTo] at done
    split at done <;> cases done
    exact ⟨next, rfl, rfl, rfl⟩

theorem Call.answeredReached {c : Call} {calls : List Call} {log : List Audit.Line} {reply : Reply}
    {t : Site} (done : c.perform ⟨Course.run calls, c.validator, log⟩ = (.ok reply, t)) :
    ∃ b b' st next, Course.run calls = .bytes b ∧ b.stateAt c.service.ns = .ok st ∧
      Moves st c.asked next ∧ reply = c.reply next ∧
      t.store = .bytes b' ∧ b'.stateAt c.service.ns = .ok next := by
  obtain ⟨b, same⟩ := Course.runBytes calls
  obtain ⟨st, known, led⟩ := Course.reached calls c.service.ns
  rw [same] at known done
  have loaded : b.stateAt c.service.ns = .ok st := known
  obtain ⟨next, decided, replied, stored⟩ := verdictAnswered loaded done
  have moved := verdictMoves (leadsFilled led) decided
  exact ⟨b, _, st, next, same, loaded, moved, replied, stored, b.stateAtPlant _ (movesFilled moved)⟩

namespace Service

structure Attests (svc : Service) (caller : Option Party) (r : Request) (before after : Site)
    (e : Event) : Prop where
  shown : ∀ h, (svc.view h after).1 = .ok ⟨e.admin, e.proposed⟩
  ns : e.ns = svc.ns
  kind : e.kind = r.kind
  sender : ∃ i : Identity, caller = some (.identity i) ∧ e.sender = i.name
  entitled : ∀ h, (if r = .acceptProposed then svc.proposedAdmin h before
    else svc.currentAdmin h before).1 = .ok caller
  holder : r ≠ .abolishAdminRole → e.admin = some e.sender
  nobody : r = .abolishAdminRole → e.admin = none ∧ e.proposed = none

section
variable {svc : Service} {h : Host} {calls : List Call} {v : Validator} {log : List Audit.Line} {t : Site}

theorem viewStored {b : ByteStore} {st : State} (stored : t.store = .bytes b)
    (known : b.stateAt svc.ns = .ok st) (h : Host) : (svc.view h t).1 = .ok st.view := by
  obtain ⟨store, v, log⟩ := t
  obtain rfl : store = .bytes b := stored
  rw [viewLoaded known]

theorem updatePerformed {caller : Option Party} {r : Request} {s : Site} {e : Event}
    (done : svc.update h caller r s = (.ok e, t)) :
    (Call.mk svc h v (.update caller r)).perform s = (.ok (.event e), t) := by
  have whole := Action.returnRun Reply.event (svc.update h caller r) s
  rw [done] at whole
  exact whole

theorem updateAttests {caller : Option Party} {r : Request} {e : Event}
    (done : svc.update h caller r ⟨Course.run calls, v, log⟩ = (.ok e, t)) :
    Attests svc caller r ⟨Course.run calls, v, log⟩ t e := by
  obtain ⟨b, b', st, next, same, known, moved, replied, stored, kept⟩ :=
    Call.answeredReached (c := ⟨svc, h, v, .update caller r⟩) (updatePerformed done)
  obtain rfl : e = Event.ofState svc.ns r next caller := Reply.event.inj replied
  obtain ⟨i, rfl, placed, holder, nobody⟩ := movesEntitled moved
  refine ⟨fun h => viewStored stored kept h, rfl, rfl, ⟨i, rfl, rfl⟩, fun h => ?_, holder,
    fun given => ?_⟩
  · rw [same]
    split at placed
    · rw [if_pos (by assumption), proposedAdminLoaded known, placed]
    · rw [if_neg (by assumption), currentAdminLoaded known, placed]
  · cases nobody given
    exact ⟨rfl, rfl⟩

theorem establishShown {r : Request} {view : View}
    (done : svc.establish h r ⟨Course.run calls, v, log⟩ = (.ok view, t)) (h' : Host) :
    (svc.view h' t).1 = .ok view := by
  let c : Call := ⟨svc, h, v, .establish r⟩
  have performed : c.perform ⟨Course.run calls, v, log⟩ = (.ok (.view view), t) := by
    have whole := Action.returnRun Reply.view (svc.establish h r) ⟨Course.run calls, v, log⟩
    rw [done] at whole
    exact whole
  obtain ⟨b, b', st, next, -, -, -, replied, stored, kept⟩ := Call.answeredReached performed
  obtain rfl : view = next.view := Reply.view.inj replied
  exact viewStored stored kept h'

end

/-- After any calls on a store that was empty, whatever a service answers to one more is what it shows from
then on: the event of an update attests the stored state and the place of its sender, and the view of an
initialization is the view. -/
theorem attributionPersisted (calls : List Call) (svc : Service) (h : Host) (v : Validator)
    (log : List Audit.Line) (t : Site) :
    (∀ caller r e, svc.update h caller r ⟨Course.run calls, v, log⟩ = (.ok e, t) →
      Attests svc caller r ⟨Course.run calls, v, log⟩ t e) ∧
    ∀ r view, svc.establish h r ⟨Course.run calls, v, log⟩ = (.ok view, t) →
      ∀ h', (svc.view h' t).1 = .ok view :=
  ⟨fun _ _ _ done => updateAttests done, fun _ _ done => establishShown done⟩

def desk : Service := ⟨"xyz", .ofService .captured logName Audit.defaultComponent "xyz"⟩

def bystander : Host := ⟨.captured, { active := "", fields := [], time := "" }⟩

def petrCrowned : List Call :=
  [⟨desk, bystander, .fresh, .establish (.setInitialAdmin (.string "пётр"))⟩]

theorem answeredSite {α : Type} {x : Action α} {s : Site} {a : α} (answered : (x s).1 = .ok a) :
    ∃ t, x s = (.ok a, t) :=
  ⟨(x s).2, Prod.ext answered rfl⟩

theorem spiderAttested :
    (∃ view t, desk.establish bystander (.setInitialAdmin (.string "пётр"))
          ⟨Course.run [], .fresh, []⟩ = (.ok view, t) ∧
        (desk.view bystander t).1 = .ok view ∧ view = ⟨some "пётр", none⟩) ∧
    ∃ e t, desk.update bystander (some (.named "пётр")) (.proposeNewAdmin (.string "🕷"))
        ⟨Course.run petrCrowned, .fresh, []⟩ = (.ok e, t) ∧
      (desk.view bystander t).1 = .ok ⟨some "пётр", some "🕷"⟩ ∧
      (desk.currentAdmin bystander ⟨Course.run petrCrowned, .fresh, []⟩).1 =
        .ok (some (.named "пётр")) := by
  constructor
  · have answered : (desk.establish bystander (.setInitialAdmin (.string "пётр"))
        ⟨Course.run [], .fresh, []⟩).1 = .ok ⟨some "пётр", none⟩ := by decide +kernel
    obtain ⟨t, done⟩ := answeredSite answered
    obtain ⟨-, initializations⟩ := attributionPersisted [] desk bystander .fresh [] t
    exact ⟨_, t, done, initializations _ _ done bystander, rfl⟩
  · have answered : (desk.update bystander (some (.named "пётр")) (.proposeNewAdmin (.string "🕷"))
        ⟨Course.run petrCrowned, .fresh, []⟩).1 =
          .ok ⟨"xyz", "ProposeNewAdmin", some "пётр", some "🕷", "пётр"⟩ := by decide +kernel
    obtain ⟨t, done⟩ := answeredSite answered
    obtain ⟨updates, -⟩ := attributionPersisted petrCrowned desk bystander .fresh [] t
    have attested := updates _ _ _ done
    have entitled := attested.entitled bystander
    rw [if_neg (by decide)] at entitled
    exact ⟨_, t, done, attested.shown bystander, entitled⟩

end Service

end Handover

import Handover.Proofs.CapturedEntry

/-!
The log as an audit trail. Over a run of calls on one store, told at any moment to fail or not to, every call
that is answered, or that is refused by a fault, leaves one entry of its answer, in the order of the calls,
and no other call leaves any. What a namespace shows in the end stands in its last entry of a success.
-/
namespace Handover

namespace Audit

def text? (name : String) (entry : Fields) : Option String :=
  match Table.get? name entry with
  | some (.string s) => some s
  | _ => none

def successOf? (ns : String) : Line → Option Fields
  | .kept entry =>
    if Table.get? "namespace" entry = some (.string ns) ∧
      (text? "event" entry = some "admin_initialized" ∨ text? "event" entry = some "admin_updated")
    then some entry else none
  | .text _ => none

def recovered : Option Fields → View × Bool
  | none => (⟨none, none⟩, false)
  | some entry =>
    (⟨text? "admin" entry,
      if text? "event" entry = some "admin_updated" then text? "proposed" entry else none⟩,
      (text? "admin" entry).isNone)

def Tells (ns : String) (lines : List Line) (before after : State) : Prop :=
  match (lines.filterMap (successOf? ns)).getLast? with
  | none => after = before
  | some entry => recovered (some entry) = (after.view, after.isAbolished)

theorem tellsThen {ns : String} {first next : List Line} {before middle after : State}
    (told : Tells ns first before middle) (later : Tells ns next middle after) :
    Tells ns (first ++ next) before after := by
  unfold Tells at *
  rw [List.filterMap_append, List.getLast?_append]
  cases last : (next.filterMap (successOf? ns)).getLast? with
  | some entry =>
    rw [last] at later
    exact later
  | none =>
    rw [last] at later
    obtain rfl : after = middle := later
    exact told

theorem textOf {name : String} {value : Option String} {entry : Fields}
    (found : Table.get? name entry = some (.ofText? value)) : text? name entry = value := by
  rw [text?, found]
  cases value <;> rfl

theorem carriedOnly {lines : List Line} {fields : Fields}
    (paired : List.Forall₂ Carries lines [fields]) :
    ∃ entry, lines = [.kept entry] ∧ ∀ f ∈ fields, Table.get? f.1 entry = some f.2 := by
  cases paired with
  | cons carries rest =>
    cases rest
    obtain ⟨entry, rfl, found⟩ := carries
    exact ⟨entry, rfl, found⟩

end Audit

namespace Call

variable {c : Call} {s : Store} {lines : List Audit.Line}

theorem headFound {level event : String} {own entry : Audit.Fields}
    (found : ∀ f ∈ c.head level event ++ own, Table.get? f.1 entry = some f.2) :
    Table.get? "namespace" entry = some (.string c.service.ns) ∧
      Audit.text? "event" entry = some event ∧ ∀ f ∈ own, Table.get? f.1 entry = some f.2 := by
  refine ⟨found ("namespace", .string c.service.ns) (by simp [head]), ?_,
    fun f member => found f (List.mem_append_right _ member)⟩
  exact Audit.textOf (found ("event", .string event) (by simp [head]))

theorem successTells {st next : State} (moved : Moves st c.asked next)
    (paired : List.Forall₂ Audit.Carries lines (c.due (.ok (c.reply next))).toList) :
    Audit.Tells c.service.ns lines st next := by
  have begun := movesBegun moved
  cases asked : c.asked with
  | establish r =>
    rw [reply, asked] at paired
    obtain ⟨entry, rfl, found⟩ := Audit.carriedOnly paired
    obtain ⟨own, event, fields⟩ := headFound found
    have admin := Audit.textOf (fields ("admin", .ofText? next.view.admin) (by simp))
    have nobody : next.view.proposed = none := by
      rw [asked] at moved
      cases moved <;> rfl
    simp [Audit.Tells, Audit.successOf?, Audit.recovered, own, event, admin, begun, ← nobody]
  | update caller r =>
    rw [reply, asked] at paired
    obtain ⟨entry, rfl, found⟩ := Audit.carriedOnly paired
    obtain ⟨own, event, fields⟩ := headFound found
    have admin := Audit.textOf (fields ("admin", .ofText? next.view.admin) (by simp [Event.ofState]))
    have proposed := Audit.textOf (fields ("proposed", .ofText? next.view.proposed)
      (by simp [Event.ofState]))
    simp [Audit.Tells, Audit.successOf?, Audit.recovered, own, event, admin, proposed, begun]

theorem otherSuccess {ns : String} {fields entry : Audit.Fields} {answer : Except Failure Reply}
    (same : c.due answer = some fields) (found : ∀ f ∈ fields, Table.get? f.1 entry = some f.2)
    (apart : ns ≠ c.service.ns ∨ ∃ e, answer = .error e) :
    Audit.successOf? ns (.kept entry) = none := by
  obtain ⟨level, event, own, rfl, failed⟩ : ∃ level event own, fields = c.head level event ++ own ∧
      ((∃ e, answer = .error e) → event = c.asked.rejected) := by
    unfold due at same
    split at same
    · cases same; exact ⟨_, _, _, rfl, fun ⟨e, wrong⟩ => by cases wrong⟩
    · cases same; exact ⟨_, _, _, rfl, fun ⟨e, wrong⟩ => by cases wrong⟩
    · split at same <;> cases same
      exact ⟨_, _, _, rfl, fun _ => rfl⟩
    · cases same
  obtain ⟨own, told, -⟩ := headFound found
  rw [Audit.successOf?, own, told]
  rcases apart with elsewhere | refused
  · simp [Ne.symm elsewhere]
  · rw [failed refused]
    cases c.asked <;> simp [Mutation.rejected]

theorem quietLines {ns : String} {answer : Except Failure Reply}
    (paired : List.Forall₂ Audit.Carries lines (c.due answer).toList)
    (apart : ns ≠ c.service.ns ∨ ∃ e, answer = .error e) (st : State) :
    Audit.Tells ns lines st st := by
  have none : lines.filterMap (Audit.successOf? ns) = [] := by
    cases same : c.due answer with
    | none =>
      rw [same] at paired
      cases paired
      rfl
    | some fields =>
      rw [same] at paired
      obtain ⟨entry, rfl, found⟩ := Audit.carriedOnly paired
      rw [List.filterMap_cons, otherSuccess same found apart]
      rfl
  rw [Audit.Tells, none]
  rfl

theorem callTells (captured : c.Captured) (sound : s.Sound) :
    List.Forall₂ Audit.Carries (c.lines s) (c.due (c.answer s)).toList ∧
    ∀ ns before, s.calm.stateAt ns = .ok before → ∃ after, (c.after s).calm.stateAt ns = .ok after ∧
      after.Filled ∧ Audit.Tells ns (c.lines s) before after := by
  obtain ⟨st, known, filled⟩ := sound c.service.ns
  obtain ⟨answered, paired⟩ := answerEntered captured filled known
  refine ⟨paired, fun ns before held => ?_⟩
  rcases settlesCalm filled known with ⟨e, refused, same⟩ | ⟨next, moved, kept, own, others⟩
  · rw [refused] at answered
    have quiet : Audit.Tells ns (c.lines s) before before :=
      quietLines paired (Or.inr ⟨e, answered⟩) before
    exact ⟨before, (same ns).trans held, Store.soundFilled sound held, quiet⟩
  · by_cases here : ns = c.service.ns
    · subst here
      obtain rfl : st = before := Except.ok.inj (known.symm.trans held)
      rw [answered, kept] at paired
      exact ⟨next, own, movesFilled moved, successTells moved paired⟩
    · have quiet := quietLines paired (Or.inl here) before
      exact ⟨before, (others ns here).trans held, Store.soundFilled sound held, quiet⟩

end Call

inductive Moment
  | call (c : Call)
  | failures (get set : Bool)

namespace Moment

def after (s : Store) : Moment → Store
  | .call c => c.after s
  | .failures get set => s.setFailures get set

def lines (s : Store) : Moment → List Audit.Line
  | .call c => c.lines s
  | .failures .. => []

def answered (s : Store) : Moment → List (Call × Except Failure Reply)
  | .call c => [(c, c.answer s)]
  | .failures .. => []

end Moment

namespace Trail

def finish (s : Store) (moments : List Moment) : Store := moments.foldl Moment.after s

def log (s : Store) : List Moment → List Audit.Line
  | [] => []
  | m :: rest => m.lines s ++ log (m.after s) rest

def answers (s : Store) : List Moment → List (Call × Except Failure Reply)
  | [] => []
  | m :: rest => m.answered s ++ answers (m.after s) rest

def due (answers : List (Call × Except Failure Reply)) : List Audit.Fields :=
  answers.filterMap fun a => a.1.due a.2

theorem soundFresh {s : Store} (fresh : s = .bytes .empty ∨ s = .plain .empty) (ns : String) :
    s.calm.stateAt ns = .ok .vacant := by
  rcases fresh with rfl | rfl <;> rfl

theorem momentTells {s : Store} {m : Moment} (captured : ∀ c, m = .call c → c.Captured)
    (sound : s.Sound) :
    List.Forall₂ Audit.Carries (m.lines s) (due (m.answered s)) ∧
    ∀ ns before, s.calm.stateAt ns = .ok before → ∃ after, (m.after s).calm.stateAt ns = .ok after ∧
      after.Filled ∧ Audit.Tells ns (m.lines s) before after := by
  cases m with
  | call c =>
    have told := Call.callTells (captured c rfl) sound
    have same : due [(c, c.answer s)] = (c.due (c.answer s)).toList := by
      cases own : c.due (c.answer s) <;> simp [due, own]
    exact ⟨same ▸ told.1, told.2⟩
  | failures get set =>
    refine ⟨.nil, fun ns before held => ⟨before, ?_, ?_, rfl⟩⟩
    · rw [Moment.after, Store.calmFailures]
      exact held
    · exact Store.soundFilled sound held

theorem runTells {s : Store} {moments : List Moment}
    (captured : ∀ c, Moment.call c ∈ moments → c.Captured) (sound : s.Sound) :
    List.Forall₂ Audit.Carries (log s moments) (due (answers s moments)) ∧
    ∀ ns before, s.calm.stateAt ns = .ok before → ∃ after,
      (finish s moments).calm.stateAt ns = .ok after ∧ Audit.Tells ns (log s moments) before after := by
  induction moments generalizing s with
  | nil => exact ⟨.nil, fun ns before held => ⟨before, held, rfl⟩⟩
  | cons m rest ih =>
    obtain ⟨paired, tells⟩ := momentTells (fun c same => captured c (same ▸ List.mem_cons_self)) sound
    have later : (m.after s).Sound := fun ns => by
      obtain ⟨st, held, -⟩ := sound ns
      obtain ⟨after, found, filled, -⟩ := tells ns st held
      exact ⟨after, found, filled⟩
    obtain ⟨pairedRest, tellsRest⟩ :=
      ih (fun c member => captured c (List.mem_cons_of_mem m member)) later
    constructor
    · rw [log, answers, due, List.filterMap_append]
      exact List.rel_append paired pairedRest
    · intro ns before held
      obtain ⟨middle, found, -, told⟩ := tells ns before held
      obtain ⟨after, last, toldRest⟩ := tellsRest ns middle found
      exact ⟨after, last, Audit.tellsThen told toldRest⟩

/-- On a store that starts empty the log has an entry for each call that is answered or is refused by a
fault, in order and no other, and each carries the answer. What a namespace shows in the end, with the store
told to fail no more, is recovered from its last entry of a success. -/
theorem logIsAuditTrail {s : Store} (fresh : s = .bytes .empty ∨ s = .plain .empty)
    (moments : List Moment) (captured : ∀ c, Moment.call c ∈ moments → c.Captured) :
    List.Forall₂ Audit.Carries (log s moments) (due (answers s moments)) ∧
    ∀ (svc : Service) (h : Host) (v : Validator) (noted : List Audit.Line),
      let last := ((log s moments).filterMap (Audit.successOf? svc.ns)).getLast?
      (svc.view h ⟨(finish s moments).calm, v, noted⟩).1 = .ok (Audit.recovered last).1 ∧
      (svc.isAbolished h ⟨(finish s moments).calm, v, noted⟩).1 = .ok (Audit.recovered last).2 := by
  have sound : s.Sound := fun ns => ⟨.vacant, soundFresh fresh ns, .vacant⟩
  obtain ⟨paired, tells⟩ := runTells captured sound
  refine ⟨paired, fun svc h v noted => ?_⟩
  obtain ⟨after, known, told⟩ := tells svc.ns .vacant (soundFresh fresh svc.ns)
  have loaded := Service.stateGiven known h v noted
  have shown : Audit.recovered ((log s moments).filterMap (Audit.successOf? svc.ns)).getLast? =
      (after.view, after.isAbolished) := by
    unfold Audit.Tells at told
    split at told
    · rename_i none
      rw [none, told]
      rfl
    · rename_i entry last
      rw [last]
      exact told
  simp only [shown]
  rw [Service.view, Service.isAbolished, Action.returnRun, Action.returnRun, loaded]
  exact ⟨rfl, rfl⟩

def recorder : Host := ⟨.captured, { active := "", fields := [], time := "" }⟩

def recorded : Service := ⟨"xyz", .ofService .captured Service.logName Audit.defaultComponent "xyz"⟩

def capturing (asked : Mutation) : Call := ⟨recorded, recorder, .fresh, asked⟩

def failedProposal : List Moment :=
  [.call (capturing (.establish (.setInitialAdmin (.string "peter")))), .failures false true,
    .call (capturing (.update (some (.named "peter")) (.proposeNewAdmin (.string "miles"))))]

theorem failedProposalTold :
    (log (.plain .empty) failedProposal).length = 2 ∧
      (recorded.view recorder ⟨(finish (.plain .empty) failedProposal).calm, .fresh, []⟩).1 =
        .ok ⟨some "peter", none⟩ := by
  have captured : ∀ c, Moment.call c ∈ failedProposal → c.Captured := by
    intro c member
    simp only [failedProposal, List.mem_cons, Moment.call.injEq, reduceCtorEq, List.not_mem_nil,
      or_false, false_or] at member
    rcases member with rfl | rfl
    · exact ⟨rfl, rfl⟩
    · exact ⟨rfl, rfl⟩
  obtain ⟨paired, shown⟩ := logIsAuditTrail (Or.inr rfl) failedProposal captured
  exact ⟨paired.length_eq, (shown recorded recorder .fresh []).1⟩

end Trail

end Handover

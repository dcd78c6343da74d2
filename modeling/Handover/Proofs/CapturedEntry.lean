import Mathlib.Data.List.Forall2
import Mathlib.Data.List.Nodup
import Handover.Proofs.FailingStore

/-!
The entry of a call in a captured journal. On a store that is in order a call adds the one entry that its
answer is due: with the event and the outcome of a success, or with level, code and message of a fault. A
request outside the family adds none, and neither does a failure that is no fault.
-/
namespace Handover

namespace Action

variable {α β : Type}

def Silent (x : Action α) (s : Site) : Prop := (x s).2.log = s.log

theorem silentBind {x : Action α} {f : α → Action β} {s : Site} (first : Silent x s)
    (next : ∀ a t, x s = (.ok a, t) → Silent (f a) t) : Silent (x >>= f) s := by
  cases done : x s with
  | mk result t =>
    rw [Silent, done] at first
    cases result with
    | ok a =>
      rw [Silent, bindOk f done]
      exact (next a t done).trans first
    | error e =>
      rw [Silent, bindError f done]
      exact first

theorem silentTransact {ns : String} {x : Action α} {s : Site}
    (inside : Silent x { s with store := s.store.enter }) : Silent (transact ns x) s := by
  unfold Silent transact at *
  split <;> rename_i done <;> rw [done] at inside <;> exact inside

theorem keepSilent (next : State) (ns : String) (s : Site) : Silent (next.keep ns) s := by
  unfold Silent State.keep
  split
  · rfl
  · split <;> rfl

end Action

theorem loadSilent {h : Host} {ns : String} {s : Site} {st : State}
    (known : s.store.calm.stateAt ns = .ok st) : (h.load ns).Silent s := by
  unfold Action.Silent Host.load
  cases got : s.store.get ns with
  | mk result store =>
    cases result with
    | ok found => rfl
    | error f =>
      -- a store that cannot be read has no damage to note
      rcases Store.calmRead known with readable | unreadable
      · rw [Store.stateAt, got] at readable
        cases readable
      · rw [got] at unreadable
        cases unreadable
        exact List.append_nil _

theorem mutateSilent {svc : Service} {h : Host}
    {d : Validator → State → Except Failure State × Validator}
    {s : Site} {st : State} (known : s.store.calm.stateAt svc.ns = .ok st) :
    (svc.mutate h d).Silent s := by
  rw [← Store.calmContent (Store.contentEnter s.store)] at known
  refine Action.silentTransact (Action.silentBind ?_ fun st' t _ => ?_)
  · exact Action.silentBind (loadSilent known) fun _ _ _ => rfl
  · refine Action.silentBind rfl fun next u _ => ?_
    exact Action.silentBind (Action.keepSilent next svc.ns u) fun _ _ _ => rfl

namespace Audit

def Carries (line : Line) (fields : Fields) : Prop :=
  ∃ kept, line = .kept kept ∧ ∀ f ∈ fields, Table.get? f.1 kept = some f.2

section
variable {level : Level} {event name : String} {fields own : Fields}

theorem capturedOwn (unique : (own.map Prod.fst).Nodup) {j : Json} (member : (name, j) ∈ own)
    (apart : name ≠ "log_level" ∧ name ≠ "event") :
    Table.get? name (capture ⟨level, event, Table.putAll own fields⟩) = some j := by
  have reversed : (own.reverse.map Prod.fst).Nodup := by
    rw [List.map_reverse]
    exact List.nodup_reverse.mpr unique
  have found : Table.get? name own.reverse = some j :=
    (Table.getMember reversed).mpr (List.mem_reverse.mpr member)
  rw [capture, Table.getPutOther _ _ apart.1, Entry.members, Table.getPutOther _ _ apart.2,
    Table.getPutAll, found, Option.some_or]

theorem capturedBound (absent : name ∉ own.map Prod.fst)
    (apart : name ≠ "log_level" ∧ name ≠ "event") :
    Table.get? name (capture ⟨level, event, Table.putAll own fields⟩) = Table.get? name fields := by
  have missing : Table.get? name own.reverse = none :=
    Table.getAbsent (by rw [List.map_reverse]; simpa using absent)
  rw [capture, Table.getPutOther _ _ apart.1, Entry.members, Table.getPutOther _ _ apart.2,
    Table.getPutAll, missing, Option.none_or]

end

end Audit

def Mutation.rejected : Mutation → String
  | .establish _ => "admin_init_rejected"
  | .update .. => "admin_update_rejected"

namespace Call

structure Captured (c : Call) : Prop where
  service : Service.make .captured c.service.ns = .ok c.service
  host : c.host.journal = .captured

def line (c : Call) (level : Audit.Level) (event : String) (own : Audit.Fields) : Audit.Line :=
  .kept (Audit.capture ⟨level, event, Table.putAll own c.logger.fields⟩)

def head (c : Call) (level event : String) : Audit.Fields :=
  [("log_level", .string level), ("event", .string event), ("namespace", .string c.service.ns)]

section
variable {c : Call} (captured : c.Captured)
include captured

theorem loggerCaptured :
    c.logger.journal = .captured ∧
      Table.get? "namespace" c.logger.fields = some (.string c.service.ns) := by
  have made := captured.service
  unfold Service.make at made
  split at made
  · cases made
  have logger : c.service.logger =
      .ofService .captured Service.logName Audit.defaultComponent c.service.ns :=
    (congrArg Service.logger (Except.ok.inj made)).symm
  have absent : Table.get? "namespace" (Audit.requestFields c.host.around.active c.asked.operation
      c.asked.request c.asked.caller).reverse = none := by
    refine Table.getAbsent ?_
    unfold Audit.requestFields
    cases c.asked.caller <;> by_cases quiet : c.host.around.active = "" <;> simp [quiet]
  rw [Call.logger, Audit.Logger.ofRequest, Audit.Logger.bind, logger]
  refine ⟨rfl, ?_⟩
  rw [Table.getPutAll, absent]
  rfl

theorem entryCaptured (trace : Option String) (level : Audit.Level) (event : String) (own : Audit.Fields) :
    c.logger.journal.take c.host.around trace (c.logger.entry level event own) =
      .ok [c.line level event own] := by
  rw [(loggerCaptured captured).1]
  rfl

theorem lineCarries (level : Audit.Level) (event : String) {own : Audit.Fields}
    (unique : (own.map Prod.fst).Nodup)
    (apart : ∀ f ∈ own, f.1 ≠ "log_level" ∧ f.1 ≠ "event" ∧ f.1 ≠ "namespace") :
    Audit.Carries (c.line level event own) (c.head level.name event ++ own) := by
  refine ⟨_, rfl, fun f member => ?_⟩
  rcases List.mem_append.mp member with front | inside
  · simp only [head, List.mem_cons, List.not_mem_nil, or_false] at front
    rcases front with rfl | rfl | rfl
    · exact Table.getPutSelf _ _ _
    · rw [Audit.capture, Table.getPutOther _ _ (by simp), Audit.Entry.members]
      exact Table.getPutSelf _ _ _
    · have absent : "namespace" ∉ own.map Prod.fst := by
        intro named
        obtain ⟨f, inside, same⟩ := List.mem_map.mp named
        exact (apart f inside).2.2 same
      rw [Audit.capturedBound absent (by decide)]
      exact (loggerCaptured captured).2
  · exact Audit.capturedOwn unique inside ⟨(apart f inside).1, (apart f inside).2.1⟩

end

/-- What the entry of an answer has to carry. A request outside the family and a failure that is no fault
have no entry. -/
def due (c : Call) : Except Failure Reply → Option Audit.Fields
  | .ok (.view v) => some (c.head "info" "admin_initialized" ++
      [("admin", .ofText? v.admin), ("abolished", .bool v.admin.isNone)])
  | .ok (.event e) => some (c.head "info" "admin_updated" ++
      [("admin", .ofText? e.admin), ("proposed", .ofText? e.proposed)])
  | .error (.fault f) =>
    if c.asked.supported then
      some (c.head (if f.isStorage then "error" else "warning") c.asked.rejected ++
        [("error", .string f.code), ("message", .string f.message)])
    else none
  | .error _ => none

section
variable {c : Call} (captured : c.Captured)
include captured

theorem successEntry {st next : State} (moved : Moves st c.asked next) :
    ∃ line fields, c.entry (.ok next) = .ok [line] ∧ c.due (.ok (c.reply next)) = some fields ∧
      Audit.Carries line fields := by
  rw [entry, if_pos (movesSupported moved), Action.entry]
  unfold closing reply
  have begun := movesBegun moved
  cases asked : c.asked with
  | establish r =>
    refine ⟨_, _, entryCaptured captured _ _ _ _, rfl, ?_⟩
    rw [← begun]
    exact lineCarries captured .info _ (by simp) (by simp)
  | update caller r =>
    exact ⟨_, _, entryCaptured captured _ _ _ _, rfl, lineCarries captured .info _ (by simp) (by simp)⟩

theorem rejectionEntry (inside : c.asked.supported = true) (f : Fault) :
    ∃ line fields, c.entry (.error (.fault f)) = .ok [line] ∧
      c.due (.error (.fault f)) = some fields ∧ Audit.Carries line fields := by
  have level : (Audit.faultLevel f).name = if f.isStorage then "error" else "warning" := by
    unfold Audit.faultLevel
    split <;> rfl
  have rejected : c.rejection f = .ok [c.line (Audit.faultLevel f) c.asked.rejected
      [("error", .string f.code), ("message", .string f.message)]] := by
    unfold rejection Audit.Logger.rejection
    cases asked : c.asked <;> exact entryCaptured captured _ _ _ _
  rw [entry, if_pos inside, Action.entry]
  refine ⟨_, _, rejected, by rw [due, if_pos inside], ?_⟩
  rw [← level]
  exact lineCarries captured _ _ (by simp) (by simp)

theorem entryDue {verdict : Except Failure State}
    (moved : ∀ next, verdict = .ok next → ∃ st, Moves st c.asked next) :
    ∃ lines, c.entry verdict = .ok lines ∧
      List.Forall₂ Audit.Carries lines (c.due (verdict.map c.reply)).toList := by
  cases verdict with
  | ok next =>
    obtain ⟨st, moved⟩ := moved next rfl
    obtain ⟨line, fields, told, same, carries⟩ := successEntry captured moved
    refine ⟨[line], told, ?_⟩
    rw [Except.map, same]
    exact .cons carries .nil
  | error e =>
    cases e with
    | fault f =>
      by_cases inside : c.asked.supported = true
      · obtain ⟨line, fields, told, same, carries⟩ := rejectionEntry captured inside f
        refine ⟨[line], told, ?_⟩
        rw [Except.map, same]
        exact .cons carries .nil
      · refine ⟨[], by rw [entry, if_neg inside], ?_⟩
        rw [Except.map, due, if_neg inside]
        exact .nil
    | _ => exact ⟨[], by simp [entry, Action.entry], .nil⟩

def lines (c : Call) (s : Store) : List Audit.Line := (c.perform (c.site s)).2.log

omit captured in
theorem mutationSilent {s : Store} {st : State} (known : s.calm.stateAt c.service.ns = .ok st) :
    (c.mutation (c.site s)).2.log = [] := by
  unfold mutation
  split
  · exact mutateSilent known
  · rfl

theorem answerEntered {s : Store} {st : State} (filled : st.Filled)
    (known : s.calm.stateAt c.service.ns = .ok st) :
    c.answer s = (c.outcome s).map c.reply ∧
      List.Forall₂ Audit.Carries (c.lines s) (c.due (c.answer s)).toList := by
  obtain ⟨lines, told, paired⟩ := entryDue captured fun next kept =>
    ⟨st, outcomeMoves filled known kept⟩
  have answered : c.answer s = (c.outcome s).map c.reply := by rw [answerOutcome, answerTo, told]
  have noted : c.entry (c.mutation (c.site s)).1 = .ok lines := told
  have added : c.lines s = lines := by
    rw [Call.lines, performTold, Action.tell, noted]
    simp only [mutationSilent known, List.nil_append]
  rw [answered, added]
  exact ⟨rfl, paired⟩

end

end Call

end Handover

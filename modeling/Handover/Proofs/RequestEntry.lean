import Handover.Proofs.CapturedEntry
import Handover.Proofs.ProductionLine

/-!
The entries of a call. Whatever the call comes to and wherever its service logs, each line that it adds
shows an entry of the service, with the request and with the identifier that is active; or it shows the
store's note of a damaged record.
-/
namespace Handover

namespace Audit

namespace Correlation

def due (active : String) : Option Json := if active = "" then none else some (.string active)

end Correlation

/-- The fields with which a line shows an entry, in a captured journal or in a written one. -/
inductive Shown (around : Surroundings) (e : Entry) : Line → Fields → Prop
  | kept : Shown around e (.kept (capture e)) (capture e)
  | written {settings : Settings} {trace : Option String} {lines : List Line} {line : Line}
    (taken : (Journal.written settings).take around trace e = .ok lines) (member : line ∈ lines) :
    Shown around e line (complete settings around e)

structure Asked where
  operation : String
  request : Request
  sender : Option Party
  events : List String

def outcomeNames : List String := ["admin", "proposed", "abolished", "error", "message"]

inductive Asked.Notes (a : Asked) (active : String) : Entry → Prop
  | mk {level : Level} {event : String} {own : Fields} {journal : Journal}
    {service component ns : String} (listed : event ∈ a.events)
    (outcome : ∀ name ∈ own.map Prod.fst, name ∈ outcomeNames) :
    a.Notes active ⟨level, event, Table.putAll own
      ((Logger.ofService journal service component ns).ofRequest active a.operation a.request
        a.sender).fields⟩

def damage (ns : String) (errors : Int) : Entry :=
  ⟨.error, "admin_record_decode_failed", [("namespace", .string ns), ("error_count", .int errors)]⟩

inductive Emitted (around : Surroundings) (a : Asked) (line : Line) : Prop
  | damage {ns : String} {errors : Int} {fields : Fields}
    (shown : Shown around (Audit.damage ns errors) line fields)
  | service {e : Entry} {fields : Fields} (own : a.Notes around.active e)
    (shown : Shown around e line fields)
    (correlated : Table.get? "correlation_id" fields = Correlation.due around.active)

section
variable {active operation : String} {r : Request} {sender : Option Party}

theorem requestUnique (active operation : String) (r : Request) (sender : Option Party) :
    ((requestFields active operation r sender).map Prod.fst).Nodup := by
  unfold requestFields
  cases sender <;> split <;> simp

theorem requestCorrelated (active operation : String) (r : Request) (sender : Option Party) :
    Table.get? "correlation_id" (requestFields active operation r sender) = Correlation.due active := by
  unfold requestFields Correlation.due
  cases sender <;> split <;> simp [Table.get?]

theorem ofRequestCorrelated (journal : Journal) (service component ns : String) :
    Table.get? "correlation_id"
        ((Logger.ofService journal service component ns).ofRequest active operation r sender).fields =
      Correlation.due active := by
  have bare : Table.get? "correlation_id" (Logger.ofService journal service component ns).fields = none := by
    simp [Logger.ofService, Table.get?]
  rw [Logger.ofRequest, Logger.bind, Table.getPutAllUnique _ _ (requestUnique ..), requestCorrelated, bare,
    Option.or_none]

theorem ofRequestUnique (journal : Journal) (service component ns : String) :
    (((Logger.ofService journal service component ns).ofRequest active operation r sender).fields.map
      Prod.fst).Nodup :=
  Table.putAllUnique _ (by simp [Logger.ofService])

end

section
variable {a : Asked} {around : Surroundings} {e : Entry}

theorem notesUnique {active : String} (own : a.Notes active e) : (e.fields.map Prod.fst).Nodup := by
  obtain ⟨listed, outcome⟩ := own
  exact Table.putAllUnique _ (ofRequestUnique ..)

theorem notesCorrelated {active : String} (own : a.Notes active e) :
    Table.get? "correlation_id" e.fields = Correlation.due active := by
  cases own with
  | @mk level event own journal service component ns listed outcome =>
    have absent : "correlation_id" ∉ own.reverse.map Prod.fst := by
      intro member
      rw [List.map_reverse, List.mem_reverse] at member
      exact absurd (outcome _ member) (by decide)
    rw [Table.getPutAll, Table.getAbsent absent, Option.none_or, ofRequestCorrelated]

theorem captureCorrelated (e : Entry) :
    Table.get? "correlation_id" (capture e) = Table.get? "correlation_id" e.fields := by
  rw [capture, Table.getPutOther _ _ (by decide), Entry.members, Table.getPutOther _ _ (by decide)]

theorem completeCorrelated (settings : Settings) (unique : (e.fields.map Prod.fst).Nodup)
    (correlated : Table.get? "correlation_id" e.fields = Correlation.due around.active)
    (unbound : "correlation_id" ∉ around.fields.map Prod.fst) :
    Table.get? "correlation_id" (complete settings around e) = Correlation.due around.active := by
  have stamped : stamp? settings around "correlation_id" = Correlation.due around.active := by
    by_cases inactive : around.active = "" <;> simp [stamp?, Correlation.due, inactive]
  rw [getComplete e unique, if_neg (by decide), if_neg (by decide), if_neg (by decide), correlated,
    Table.getAbsent unbound, stamped, Option.or_none, Option.or_self]

theorem takenShown {j : Journal} {trace : Option String} {lines : List Line}
    (taken : j.take around trace e = .ok lines) {line : Line} (member : line ∈ lines) :
    Shown around e line (capture e) ∨ ∃ settings, Shown around e line (complete settings around e) := by
  cases j with
  | captured =>
    cases taken
    rw [List.mem_singleton.mp member]
    exact Or.inl .kept
  | written settings => exact Or.inr ⟨settings, .written taken member⟩

theorem takenEmitted (unbound : "correlation_id" ∉ around.fields.map Prod.fst)
    (own : a.Notes around.active e) {j : Journal} {trace : Option String} {lines : List Line}
    (taken : j.take around trace e = .ok lines) : ∀ line ∈ lines, Emitted around a line := by
  intro line member
  have correlated := notesCorrelated own
  rcases takenShown taken member with captured | ⟨settings, written⟩
  · exact .service own captured ((captureCorrelated e).trans correlated)
  · exact .service own written (completeCorrelated settings (notesUnique own) correlated unbound)

theorem damageEmitted {j : Journal} {f : Fault} {lines : List Line}
    (noted : j.decodeFailure around f = .ok lines) : ∀ line ∈ lines, Emitted around a line := by
  intro line member
  unfold Journal.decodeFailure at noted
  split at noted
  · rcases takenShown noted member with captured | ⟨settings, written⟩
    · exact .damage captured
    · exact .damage written
  · cases noted
    cases member

end

def Logger.Made (l : Logger) : Prop :=
  ∃ journal service component ns, l = .ofService journal service component ns

theorem entryTakenEmitted {l : Logger} (made : l.Made) {a : Asked} {around : Surroundings}
    (unbound : "correlation_id" ∉ around.fields.map Prod.fst) {level : Level} {event : String}
    (listed : event ∈ a.events) {own : Fields}
    (outcome : ∀ name ∈ own.map Prod.fst, name ∈ outcomeNames) {trace : Option String}
    {lines : List Line} (taken : l.journal.take around trace
      ((l.ofRequest around.active a.operation a.request a.sender).entry level event own) = .ok lines) :
    ∀ line ∈ lines, Emitted around a line := by
  obtain ⟨journal, service, component, ns, rfl⟩ := made
  exact takenEmitted unbound (.mk listed outcome) taken

end Audit

namespace Action

variable {α β : Type} {P : Audit.Line → Prop}

def Adds (P : Audit.Line → Prop) (x : Action α) : Prop :=
  ∀ s, (∀ line ∈ s.log, P line) → ∀ line ∈ (x s).2.log, P line

theorem addsSilent {x : Action α} (silent : ∀ s, Silent x s) : Adds P x := by
  intro s before
  rw [silent s]
  exact before

theorem addsBind {x : Action α} {f : α → Action β} (first : Adds P x) (next : ∀ a, Adds P (f a)) :
    Adds P (x >>= f) := by
  intro s before
  cases done : x s with
  | mk result t =>
    have after := first s before
    rw [done] at after
    cases result with
    | ok a =>
      rw [bindOk f done]
      exact next a t after
    | error e =>
      rw [bindError f done]
      exact after

theorem addsTransact {ns : String} {x : Action α} (inside : Adds P x) : Adds P (transact ns x) := by
  intro s before
  have after := inside { s with store := s.store.enter } before
  unfold transact
  split <;> rename_i done <;> rw [done] at after <;> exact after

theorem addsFailNoting (f : Fault) {lines : Except Audit.Loss (List Audit.Line)}
    (own : ∀ ls, lines = .ok ls → ∀ line ∈ ls, P line) : Adds P (failNoting f lines : Action α) := by
  intro s before
  cases lines with
  | error m =>
    rw [failNoting, bindError _ (noteLost m s)]
    exact before
  | ok ls =>
    rw [failNoting, bindOk _ (noteRun ls s)]
    exact List.forall_mem_append.mpr ⟨before, own ls rfl⟩

end Action

section
variable {h : Host} {P : Audit.Line → Prop}
  (damage : ∀ f lines, h.journal.decodeFailure h.around f = .ok lines → ∀ line ∈ lines, P line)
include damage

theorem loadAdds (ns : String) : (h.load ns).Adds P := by
  intro s before
  unfold Host.load
  cases s.store.get ns with
  | mk found store =>
    cases found with
    | ok r => exact before
    | error f => exact Action.addsFailNoting f (damage f) _ before

theorem mutateAdds (svc : Service) (d : Validator → State → Except Failure State × Validator) :
    (svc.mutate h d).Adds P := by
  refine Action.addsTransact (Action.addsBind ?_ fun st => ?_)
  · exact Action.addsBind (loadAdds damage svc.ns) fun found => Action.addsSilent fun s => rfl
  · refine Action.addsBind (Action.addsSilent fun s => rfl) fun next => ?_
    exact Action.addsBind (Action.addsSilent (Action.keepSilent next svc.ns)) fun _ =>
      Action.addsSilent fun s => rfl

end

def Mutation.events : Mutation → List String
  | .establish _ => ["admin_initialized", "admin_init_rejected"]
  | .update .. => ["admin_updated", "admin_update_rejected"]

def Mutation.asks (m : Mutation) : Audit.Asked := ⟨m.operation, m.request, m.caller, m.events⟩

namespace Call

section
variable {c : Call} (made : c.service.logger.Made)
  (unbound : "correlation_id" ∉ c.host.around.fields.map Prod.fst)
include made unbound

theorem entryEmitted {verdict : Except Failure State} {lines : List Audit.Line}
    (noted : c.entry verdict = .ok lines) :
    ∀ line ∈ lines, Audit.Emitted c.host.around c.asked.asks line := by
  have silent {lines : List Audit.Line} (none : (.ok [] : Except Audit.Loss _) = .ok lines) :
      ∀ line ∈ lines, Audit.Emitted c.host.around c.asked.asks line := by
    cases none
    simp
  unfold entry at noted
  split at noted
  · unfold Action.entry at noted
    split at noted
    · unfold closing at noted
      split at noted
      all_goals
        rename_i asked
        refine Audit.entryTakenEmitted made unbound ?_ (by simp [Audit.outcomeNames]) noted
        simp [Mutation.asks, Mutation.events, asked]
    · unfold rejection at noted
      split at noted
      all_goals
        rename_i asked
        refine Audit.entryTakenEmitted made unbound ?_ (by simp [Audit.outcomeNames]) noted
        simp [Mutation.asks, Mutation.events, asked]
    · exact silent noted
  · exact silent noted

theorem performEmitted (s : Store) :
    ∀ line ∈ (c.perform (c.site s)).2.log, Audit.Emitted c.host.around c.asked.asks line := by
  have mutated : ∀ line ∈ (c.mutation (c.site s)).2.log,
      Audit.Emitted c.host.around c.asked.asks line := by
    unfold mutation
    split
    · exact mutateAdds (fun f lines noted => Audit.damageEmitted noted) _ _ _ (by simp [site])
    · simp [Action.fail, site]
  rw [performTold, Action.tell]
  split
  · rename_i lines noted
    exact List.forall_mem_append.mpr ⟨mutated, entryEmitted made unbound noted⟩
  · exact mutated

end

end Call

end Handover

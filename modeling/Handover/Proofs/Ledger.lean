import Handover.Proofs.Write
import Handover.Session.Run

/-!
What the acts of a session write. Between two worlds stands the ledger of what was written in each namespace
of each place, in order; the world afterwards holds the last of it. An act makes one write or none.
-/
namespace Handover.Session

def Ledger : Type := Nat → String → List (Option Cell)

namespace Ledger

def blank : Ledger := fun _ _ => []

def single : Option (Nat × Write) → Ledger
  | none => blank
  | some (i, e) => fun j ns => if j = i then e.at ns else []

def append (first next : Ledger) : Ledger := fun i ns => first i ns ++ next i ns

def strike (log : Ledger) (i : Nat) (ns : String) : Ledger :=
  fun j m => if j = i ∧ m = ns then [] else log j m

end Ledger

namespace World

variable {w u v : World}

def cell? (w : World) (i : Nat) (ns : String) : Option Cell := (w.stores[i]?).bind fun s => s.cell? ns

structure Follows (w v : World) (log : Ledger) : Prop where
  kinds : ∀ (i : Nat) (s : Store), w.stores[i]? = some s →
    ∃ t : Store, v.stores[i]? = some t ∧ t.mode.isSome = s.mode.isSome
  cells : ∀ i ns, v.cell? i ns = (log i ns).getLast?.getD (w.cell? i ns)

theorem followsTo {log : Ledger} (whole : w.Follows u log) (same : v.stores = u.stores) :
    w.Follows v log where
  kinds i s found := by rw [same]; exact whole.kinds i s found
  cells i ns := by rw [cell?, same]; exact whole.cells i ns

theorem followsSame (same : v.stores = w.stores) : w.Follows v .blank :=
  followsTo ⟨fun _ s found => ⟨s, found, rfl⟩, fun _ _ => rfl⟩ same

theorem followsThen {first next : Ledger} (before : w.Follows u first) (after : u.Follows v next) :
    w.Follows v (first.append next) where
  kinds i s found := by
    obtain ⟨t, kept, kind⟩ := before.kinds i s found
    obtain ⟨t', kept', kind'⟩ := after.kinds i t kept
    exact ⟨t', kept', kind'.trans kind⟩
  cells i ns := by
    rw [after.cells, before.cells, Ledger.append, List.getLast?_append, Option.getD_or]

theorem followsAdded {s : Store} (added : v.stores = w.stores ++ [s]) (empty : ∀ ns, s.cell? ns = none) :
    w.Follows v .blank where
  kinds i t found := by
    obtain ⟨inside, -⟩ := List.getElem?_eq_some_iff.mp found
    exact ⟨t, by rw [added, List.getElem?_append_left inside, found], rfl⟩
  cells i ns := by
    change v.cell? i ns = w.cell? i ns
    rw [cell?, cell?, added]
    rcases Nat.lt_trichotomy i w.stores.length with inside | rfl | outside
    · rw [List.getElem?_append_left inside]
    · simp [empty]
    · rw [List.getElem?_eq_none (by simp; omega), List.getElem?_eq_none (by omega)]

theorem cellPut {i : Nat} {s : Store} (found : w.stores[i]? = some s) (t : Store) (j : Nat)
    (ns : String) : (w.putStore i t).cell? j ns = if j = i then t.cell? ns else w.cell? j ns := by
  obtain ⟨inside, -⟩ := List.getElem?_eq_some_iff.mp found
  rw [cell?, cell?, putStore]
  by_cases own : j = i
  · subst own
    simp [List.getElem?_set_self inside]
  · rw [if_neg own, List.getElem?_set_ne (Ne.symm own)]

theorem followsPut {i : Nat} {s t : Store} {e : Option Write} (found : w.stores[i]? = some s)
    (takes : s.Takes t e) (put : v.stores = w.stores.set i t) :
    w.Follows v (.single (e.map fun e => (i, e))) := by
  constructor
  · intro j s' found'
    by_cases own : i = j
    · subst own
      obtain ⟨inside, -⟩ := List.getElem?_eq_some_iff.mp found
      rw [found] at found'
      cases found'
      exact ⟨t, by rw [put, List.getElem?_set_self inside], takes.kind⟩
    · exact ⟨s', by rw [put, List.getElem?_set_ne own, found'], rfl⟩
  · intro j ns
    have same : v.cell? j ns = (w.putStore i t).cell? j ns := by
      rw [cell?, put]
      rfl
    rw [same, cellPut found]
    by_cases own : j = i
    · subst own
      have cell := takes.cells ns
      cases e with
      | none => simpa [cell?, found, Ledger.single, Ledger.blank] using cell
      | some e => simpa [cell?, found, Ledger.single] using cell
    · cases e with
      | none => simp [own, Ledger.single, Ledger.blank]
      | some e => simp [own, Ledger.single]

def bound? (w : World) (name : String) : Option (Binding × Store × Validator) :=
  match find name w.services with
  | .error _ => none
  | .ok b =>
    match w.stores[b.store]?, w.validators[b.validator]? with
    | some s, some d => some (b, s, d)
    | _, _ => none

theorem serveBound {α : Type} {name : String} {b : Binding} {s : Store} {d : Validator}
    (bound : w.bound? name = some (b, s, d)) (x : Service → Host → Action α) :
    w.stores[b.store]? = some s ∧ w.validators[b.validator]? = some d ∧
    w.serve name x = ((x b.service w.host ⟨s, d, []⟩).1,
      ((w.putStore b.store (x b.service w.host ⟨s, d, []⟩).2.store).putValidator b.validator
        (x b.service w.host ⟨s, d, []⟩).2.validator).note (x b.service w.host ⟨s, d, []⟩).2.log) := by
  unfold bound? at bound
  cases found : find name w.services with
  | error e => simp only [found] at bound; cases bound
  | ok b' =>
    simp only [found] at bound
    split at bound
    · rename_i stored held
      cases bound
      exact ⟨stored, held, by simp only [serve, found, stored, held]⟩
    · cases bound

theorem findFails {α : Type} {name : String} {table : List (String × α)} {e : Failure}
    (failed : find name table = .error e) : e = unknown name := by
  unfold find at failed
  split at failed <;> cases failed
  rfl

theorem serveUnbound {α : Type} {name : String} (unbound : w.bound? name = none)
    (x : Service → Host → Action α) : w.serve name x = (.error (unknown name), w) := by
  unfold bound? at unbound
  unfold serve
  cases found : find name w.services with
  | error e => rw [findFails found]
  | ok b =>
    cases stored : w.stores[b.store]? with
    | none => simp only [stored]
    | some s =>
      cases held : w.validators[b.validator]? with
      | none => simp only [stored, held]
      | some d => simp only [found, stored, held] at unbound; cases unbound

def mutation? (w : World) (name : String) (m : Mutation) : Option (Nat × Write) :=
  match w.bound? name with
  | none => none
  | some (b, s, d) => ((Call.mk b.service w.host d m).write? s).map fun e => (b.store, e)

def writing? (w : World) (name : String) (write : Store → Option Write) : Option (Nat × Write) :=
  match w.store name with
  | .error _ => none
  | .ok (i, s) => (write s).map fun e => (i, e)

def write? (w : World) : Act → Option (Nat × Write)
  | .establish name r => do w.mutation? name (.establish (← r.request.toOption))
  | .update name sender r => do
    w.mutation? name (.update (← (readParty sender).toOption) (← r.request.toOption))
  | .set name ns r => w.writing? name fun s => do s.write? ns (← r.record.toOption)
  | .seed name ns r => w.writing? name fun s => do s.seeding? ns (← r.record.toOption)
  | .plant name ns raw => w.writing? name fun s => s.planting? ns raw
  | .clear name => w.writing? name Store.clearing?
  | _ => none

theorem followsServe {α : Type} {name : String} {m : Mutation} {x : Service → Host → Action α}
    (f : α → Answer) (does : ∀ (svc : Service) (h : Host) (d : Validator) (s : Store),
      (x svc h ⟨s, d, []⟩).2.store = (Call.mk svc h d m).after s) :
    w.Follows (w.serving name x f).2 (.single (w.mutation? name m)) := by
  unfold mutation? serving
  cases bound : w.bound? name with
  | none =>
    rw [serveUnbound bound]
    exact followsSame rfl
  | some found =>
    obtain ⟨b, s, d⟩ := found
    obtain ⟨stored, -, served⟩ := serveBound bound x
    have takes := (Call.mk b.service w.host d m).afterTakes s
    rw [← does] at takes
    rw [served]
    exact followsPut stored takes rfl

theorem storePlaced {name : String} {i : Nat} {s : Store} (found : w.store name = .ok (i, s)) :
    w.stores[i]? = some s := by
  unfold store place at found
  cases named : find name w.storeNames with
  | error e => rw [named] at found; cases found
  | ok j =>
    simp only [named, bind, Except.bind] at found
    split at found
    · rename_i a stored
      cases found
      exact stored
    · cases found

theorem changeMissing {name : String} {e : Failure} (missing : w.store name = .error e)
    (f : Store → Except Failure Store) : w.changeStore name f = (.error e, w) := by
  unfold changeStore
  rw [missing]
  rfl

theorem changeStored {name : String} {i : Nat} {s : Store} (found : w.store name = .ok (i, s))
    (f : Store → Except Failure Store) :
    w.changeStore name f = w.changing ((f s).map fun t => w.putStore i t) := by
  unfold changeStore
  simp only [found, bind, Except.bind]
  cases f s <;> rfl

theorem followsChange {name : String} {f : Store → Except Failure Store} {write : Store → Option Write}
    (does : ∀ s, (∃ e, f s = .error e ∧ write s = none) ∨
      ∃ t, f s = .ok t ∧ s.Takes t (write s)) :
    w.Follows (w.changeStore name f).2 (.single (w.writing? name write)) := by
  unfold writing?
  cases found : w.store name with
  | error e =>
    rw [changeMissing found]
    exact followsSame rfl
  | ok named =>
    obtain ⟨i, s⟩ := named
    rw [changeStored found]
    rcases does s with ⟨e, failed, nothing⟩ | ⟨t, kept, takes⟩
    · rw [failed]
      simp only [nothing]
      exact followsSame rfl
    · rw [kept]
      exact followsPut (storePlaced found) takes rfl

theorem followsEstablish (name : String) (r : Request) :
    w.Follows (w.serving name (fun svc h => svc.establish h r) Answer.view).2
      (.single (w.mutation? name (.establish r))) := by
  refine followsServe _ fun svc h d s => ?_
  have ran := Action.returnRun Reply.view (svc.establish h r) ⟨s, d, []⟩
  exact (congrArg (fun done => done.2.store) ran).symm

theorem followsUpdate (name : String) (caller : Option Party) (r : Request) :
    w.Follows (w.serving name (fun svc h => svc.update h caller r) Answer.event).2
      (.single (w.mutation? name (.update caller r))) := by
  refine followsServe _ fun svc h d s => ?_
  have ran := Action.returnRun Reply.event (svc.update h caller r) ⟨s, d, []⟩
  exact (congrArg (fun done => done.2.store) ran).symm

theorem followsReading {α : Type} {name : String} {x : Service → Host → Action α} (f : α → Answer)
    (reads : ∀ svc h, (x svc h).Reads) : w.Follows (w.serving name x f).2 .blank := by
  unfold serving
  cases bound : w.bound? name with
  | none =>
    rw [serveUnbound bound]
    exact followsSame rfl
  | some found =>
    obtain ⟨b, s, d⟩ := found
    obtain ⟨stored, -, served⟩ := serveBound bound x
    rw [served]
    exact followsPut (e := none) stored (Store.takesNothing (reads b.service w.host ⟨s, d, []⟩)) rfl

theorem followsReadingParty {α : Type} {name : String} (who : Json)
    {x : Service → Host → Option Party → Action α} (f : α → Answer)
    (reads : ∀ svc h p, (x svc h p).Reads) : w.Follows (w.servingParty name who x f).2 .blank := by
  unfold servingParty
  cases readParty who with
  | error e => exact followsSame rfl
  | ok p => exact followsReading f fun svc h => reads svc h p

theorem followsGet (name ns : String) : w.Follows (w.getRecord name ns).2 .blank := by
  unfold getRecord
  cases found : w.store name with
  | error e => exact followsSame rfl
  | ok named =>
    obtain ⟨i, s⟩ := named
    exact followsPut (e := none) (storePlaced found)
      (Store.takesNothing (loadReads w.host ns ⟨s, .fresh, []⟩)) rfl

theorem followsSharing : w.Follows w.shareOnDemand.2 .blank := by
  unfold shareOnDemand
  cases w.shared with
  | some i => exact followsSame rfl
  | none => exact followsAdded rfl fun _ => rfl

theorem changingStores {next : Except Failure World} (same : ∀ v, next = .ok v → v.stores = w.stores) :
    (w.changing next).2.stores = w.stores := by
  cases next with
  | error e => rfl
  | ok v => exact same v rfl

theorem bindServiceStores (name ns : String) (i j : Nat) :
    (w.bindService name ns i j).2.stores = w.stores := by
  unfold bindService
  split <;> rfl

theorem followsBootstrap (name : String) (draft : Option Draft) (store validator : Option String) :
    w.Follows (w.bootstrap name draft store validator).2 .blank := by
  unfold bootstrap
  split
  · exact followsSame rfl
  rename_i settings chosen
  have bound {u : World} (i j : Nat) (shared : w.Follows u .blank) :
      w.Follows (u.bindService name settings.ns i j).2 .blank :=
    followsThen shared (followsSame (bindServiceStores name settings.ns i j))
  -- the shared store, once made, stays even if no validator is found
  dsimp only
  split
  · exact followsSame rfl
  rename_i i u given
  have shared : w.Follows u .blank := by
    split at given
    · cases found : w.store _ with
      | error e => rw [found] at given; cases given
      | ok named => rw [found] at given; cases given; exact followsSame rfl
    · have same : u = w.shareOnDemand.2 := (congrArg Prod.snd (Except.ok.inj given)).symm
      rw [same]
      exact followsSharing
  split
  · exact shared
  rename_i j u' made
  refine bound i j ?_
  split at made
  · cases found : u.validator _ with
    | error e => rw [found] at made; cases made
    | ok named => rw [found] at made; cases made; exact shared
  · cases made
    exact followsThen shared (followsSame rfl)

theorem followsFailures (name : String) (get set : Bool) :
    w.Follows (w.changeStore name fun s => .ok (s.setFailures get set)).2 .blank := by
  have follows : w.Follows (w.changeStore name fun s => .ok (s.setFailures get set)).2
      (.single (w.writing? name fun _ => none)) :=
    followsChange fun s => Or.inr ⟨_, rfl, s.failuresTake get set⟩
  have nothing : w.writing? name (fun _ => none) = none := by
    unfold writing?
    split <;> rfl
  rw [nothing] at follows
  exact follows

theorem performFollows (w : World) (a : Act) : w.Follows (w.perform a).2 (.single (w.write? a)) := by
  cases a with
  | makeStore name kind => cases kind <;> exact followsAdded rfl fun _ => rfl
  | makeValidator name kind =>
    refine followsSame (changingStores fun v made => ?_)
    cases kind with
    | listed => cases made; rfl
    | canonical d =>
      simp only [bind, Except.bind] at made
      split at made <;> cases made
      rfl
  | refuse name raw =>
    refine followsSame (changingStores fun v made => ?_)
    simp only [bind, Except.bind] at made
    split at made <;> try contradiction
    split at made <;> cases made
    rfl
  | validate name raw =>
    refine followsSame ?_
    simp only [perform, validateRaw]
    split <;> rfl
  | makeService name ns store validator =>
    refine followsSame ?_
    simp only [perform]
    split
    · exact bindServiceStores ..
    all_goals rfl
  | bootstrap name draft store validator => exact followsBootstrap name draft store validator
  | sharedStore name => exact followsThen followsSharing (followsSame rfl)
  | shareStore store =>
    cases store with
    | none => exact followsSame rfl
    | some name =>
      refine followsSame (changingStores fun v made => ?_)
      cases found : w.store name with
      | error e => rw [found] at made; cases made
      | ok named => rw [found] at made; cases made; rfl
  | establish name r =>
    simp only [perform, write?]
    cases r.request with
    | error e => exact followsSame rfl
    | ok r => exact followsEstablish name r
  | update name sender r =>
    simp only [perform, write?]
    cases readParty sender with
    | error e => exact followsSame rfl
    | ok p =>
      cases r.request with
      | error e => exact followsSame rfl
      | ok r => exact followsUpdate name p r
  | query name => exact followsReading _ Service.surveyReads
  | isAdmin name who => exact followsReadingParty who _ Service.isAdminReads
  | isProposed name who => exact followsReadingParty who _ Service.isProposedReads
  | assertAdmin name who => exact followsReadingParty who _ Service.assertAdminReads
  | assertProposed name who => exact followsReadingParty who _ Service.assertProposedReads
  | get name ns => exact followsGet name ns
  | set name ns r =>
    refine followsChange fun s => ?_
    cases r.record with
    | error e => exact Or.inl ⟨e, rfl, rfl⟩
    | ok r =>
      cases stored : s.set ns r with
      | error e => exact Or.inl ⟨e, stored, Store.setFailed stored⟩
      | ok t => exact Or.inr ⟨t, stored, Store.setTakes stored⟩
  | seed name ns r =>
    refine followsChange fun s => ?_
    cases r.record with
    | error e => exact Or.inl ⟨e, rfl, rfl⟩
    | ok r => exact Or.inr ⟨_, rfl, s.seedTakes ns r⟩
  | plant name ns raw =>
    exact followsChange fun s => Or.inr ⟨_, rfl, s.plantTakes ns raw⟩
  | setFailures name get set => exact followsFailures name get set
  | clear name => exact followsChange fun s => Or.inr ⟨_, rfl, s.clearTakes⟩
  | configure draft =>
    refine followsSame ?_
    simp only [perform]
    split <;> rfl
  | log level event fields =>
    refine followsSame (changingStores fun v made => ?_)
    cases taken : Audit.Logger.call ⟨w.journal, []⟩ w.around level event fields with
    | error e => rw [taken] at made; cases made
    | ok lines => rw [taken] at made; cases made; rfl
  | logRequest service ns component operation r sender event =>
    refine followsSame (changingStores fun v made => ?_)
    simp only [bind, Except.bind] at made
    split at made <;> try contradiction
    split at made <;> try contradiction
    split at made <;> cases made
    rfl
  | _ => exact followsSame rfl

end World

end Handover.Session

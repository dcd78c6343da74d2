import Handover.Proofs.Course
import Handover.Proofs.Damage
import Handover.Proofs.KeptRecord

/-!
What a service makes of the bytes of its namespace. Where they read, a visit goes by the state that they
spell and by nothing else of them. So two stores that spell one state in different ways answer alike for
as long as they are visited, and the first mutation that is kept leaves them with the same bytes.
-/
namespace Handover

theorem toOptionSome {ε α : Type} {x : Except ε α} {a : α} : x.toOption = some a ↔ x = .ok a := by
  cases x <;> simp [Except.toOption]

namespace Call

variable {c : Call} {b : ByteStore} {st : State} {log : List Audit.Line}

def noted (c : Call) (st : State) : List Audit.Line :=
  match c.entry (c.verdict st) with
  | .ok lines => lines
  | .error _ => []

theorem performLoaded (known : b.stateAt c.service.ns = .ok st) :
    c.perform ⟨.bytes b, c.validator, log⟩ =
      (c.answerTo (c.verdict st),
        ⟨.bytes (b.settle c.service.ns (c.verdict st).toOption), c.learned st,
          log ++ c.noted st⟩) := by
  rw [performTold, mutationLoaded (ByteStore.stateAtFilled known) known, Action.tell, answerTo, noted]
  split <;> simp_all

end Call

structure Upshot where
  answer : Except Failure Finding
  kept : Option State
  validator : Validator
  noted : List Audit.Line

namespace Visit

variable {v : Visit} {b : ByteStore} {st : State} {log : List Audit.Line}

def telling (v : Visit) (answer : Except Failure Finding) : Upshot := ⟨answer, none, v.validator, []⟩

def upshot (v : Visit) (st : State) : Upshot :=
  match v.errand with
  | .change asked =>
    let c := v.call asked
    ⟨(c.answerTo (c.verdict st)).map .reply, (c.verdict st).toOption, c.learned st, c.noted st⟩
  | .currentAdmin => v.telling (.ok (.party st.admin))
  | .proposedAdmin => v.telling (.ok (.party st.proposed))
  | .isAbolished => v.telling (.ok (.flag st.isAbolished))
  | .view => v.telling (.ok (.view st.view))
  | .isAdmin who => v.telling (.ok (.flag (st.admin ≠ none ∧ st.admin = who)))
  | .isProposed who => v.telling (.ok (.flag (st.proposed ≠ none ∧ st.proposed = who)))
  | .assertAdmin who =>
    let held : Except Failure Unit :=
      if st.admin ≠ none ∧ st.admin = who then .ok () else .error (.fault .notAdmin)
    v.telling (held.map fun _ => .nothing)
  | .assertProposed who =>
    let named : Except Failure Unit :=
      if st.proposed ≠ none ∧ st.proposed = who then .ok () else .error (.fault .notProposed)
    v.telling (named.map fun _ => .nothing)

theorem performLoaded (known : b.stateAt v.service.ns = .ok st) :
    v.perform ⟨.bytes b, v.validator, log⟩ =
      ((v.upshot st).answer,
        ⟨.bytes (b.settle v.service.ns (v.upshot st).kept), (v.upshot st).validator,
          log ++ (v.upshot st).noted⟩) := by
  obtain ⟨svc, h, validator, errand⟩ := v
  have told {α : Type} {x : Action α} (g : α → Finding) {a : Except Failure α}
      (loaded : x ⟨.bytes b, validator, log⟩ = (a, ⟨.bytes b, validator, log⟩)) :
      (do return g (← x) : Action Finding) ⟨.bytes b, validator, log⟩ =
        (a.map g, ⟨.bytes b, validator, log ++ []⟩) := by
    rw [Action.returnRun, loaded, List.append_nil]
  cases errand with
  | change asked =>
    have told := Action.returnRun Finding.reply (Call.mk svc h validator asked).perform
      ⟨.bytes b, validator, log⟩
    rw [Call.performLoaded (c := ⟨svc, h, validator, asked⟩) known] at told
    exact told
  | currentAdmin => exact told .party (Service.currentAdminLoaded known)
  | proposedAdmin => exact told .party (Service.proposedAdminLoaded known)
  | isAbolished => exact told .flag (Service.isAbolishedLoaded known)
  | view => exact told .view (Service.viewLoaded known)
  | isAdmin who => exact told .flag (Service.isAdminLoaded known who)
  | isProposed who => exact told .flag (Service.isProposedLoaded known who)
  | assertAdmin who => exact told (fun _ => .nothing) (Service.assertAdminLoaded known who)
  | assertProposed who => exact told (fun _ => .nothing) (Service.assertProposedLoaded known who)

theorem upshotFilled {next : State} (filled : st.Filled) (kept : (v.upshot st).kept = some next) :
    next.Filled := by
  obtain ⟨svc, h, validator, errand⟩ := v
  cases errand with
  | change asked =>
    have decided : (Call.mk svc h validator asked).verdict st = .ok next := by
      simpa [upshot, call, toOptionSome] using kept
    exact movesFilled (Call.verdictMoves filled decided)
  | _ => cases kept

theorem settleState {ns : String} (known : b.stateAt ns = .ok st) :
    (b.settle ns (v.upshot st).kept).stateAt ns = .ok ((v.upshot st).kept.getD st) := by
  cases kept : (v.upshot st).kept with
  | none => exact known
  | some next => exact b.stateAtPlant ns (upshotFilled (ByteStore.stateAtFilled known) kept)

end Visit

structure Turn where
  service : Service
  host : Host
  errand : Errand

namespace Turn

def visit (t : Turn) (v : Validator) : Visit := ⟨t.service, t.host, v, t.errand⟩

def take (t : Turn) : Action Finding := fun s => (t.visit s.validator).perform s

def Keeps (t : Turn) (s : Site) : Prop :=
  ∃ asked, t.errand = .change asked ∧ ((t.visit s.validator).call asked).Taken s.store

variable {t : Turn} {b : ByteStore} {st : State} {v : Validator} {log : List Audit.Line}

theorem takeLoaded (known : b.stateAt t.service.ns = .ok st) :
    t.take ⟨.bytes b, v, log⟩ =
      (((t.visit v).upshot st).answer,
        ⟨.bytes (b.settle t.service.ns ((t.visit v).upshot st).kept), ((t.visit v).upshot st).validator,
          log ++ ((t.visit v).upshot st).noted⟩) :=
  Visit.performLoaded (v := t.visit v) known

theorem keepsIff (known : b.stateAt t.service.ns = .ok st) :
    t.Keeps ⟨.bytes b, v, log⟩ ↔ ∃ next, ((t.visit v).upshot st).kept = some next := by
  obtain ⟨svc, h, errand⟩ := t
  have filled := ByteStore.stateAtFilled known
  cases errand with
  | change asked =>
    have settled := Call.outcomeVerdict (c := ⟨svc, h, v, asked⟩) filled known
    constructor
    · rintro ⟨_, same, next, kept⟩
      cases same
      exact ⟨next, toOptionSome.mpr (settled.symm.trans kept)⟩
    · rintro ⟨next, kept⟩
      exact ⟨asked, rfl, next, settled.trans (toOptionSome.mp kept)⟩
  | _ => simp [Keeps, Visit.upshot, Visit.telling, visit]

theorem keepsOfReply {r : Reply} (known : b.stateAt t.service.ns = .ok st)
    (answered : (t.take ⟨.bytes b, v, log⟩).1 = .ok (.reply r)) : t.Keeps ⟨.bytes b, v, log⟩ := by
  rw [takeLoaded known] at answered
  rw [keepsIff known]
  obtain ⟨svc, h, errand⟩ := t
  cases errand with
  | change asked =>
    simp only [visit, Visit.upshot, Visit.call, Call.answerTo] at answered ⊢
    cases decided : (Call.mk svc h v asked).verdict st with
    | ok next => exact ⟨next, rfl⟩
    | error e =>
      rw [decided] at answered
      split at answered <;> cases answered
  | assertAdmin who =>
    simp only [visit, Visit.upshot, Visit.telling] at answered
    split at answered <;> cases answered
  | assertProposed who =>
    simp only [visit, Visit.upshot, Visit.telling] at answered
    split at answered <;> cases answered
  | _ => cases answered

end Turn

def tour : List Turn → Site → List (Except Failure Finding) × Site
  | [], s => ([], s)
  | t :: rest, s =>
    let (answers, last) := tour rest (t.take s).2
    ((t.take s).1 :: answers, last)

inductive Keeping : List Turn → Site → Prop
  | now {t : Turn} {rest : List Turn} {s : Site} (kept : t.Keeps s) : Keeping (t :: rest) s
  | later {t : Turn} {rest : List Turn} {s : Site} (kept : Keeping rest (t.take s).2) :
    Keeping (t :: rest) s

/-- Two sites that differ in a store of bytes only, whose own bytes spell one state. -/
inductive OneState (ns : String) : Site → Site → Prop
  | mk {b b' : ByteStore} {st : State} (v : Validator) (log : List Audit.Line)
    (known : b.stateAt ns = .ok st) (known' : b'.stateAt ns = .ok st) :
    OneState ns ⟨.bytes b, v, log⟩ ⟨.bytes b', v, log⟩

def SameBytes (ns : String) (s s' : Site) : Prop :=
  ∃ raw, s.store.bytes? ns = some raw ∧ s'.store.bytes? ns = some raw

section
variable {ns : String} {s s' : Site} {t : Turn} {turns : List Turn}

theorem takeAlike (own : t.service.ns = ns) (same : OneState ns s s') :
    (t.take s).1 = (t.take s').1 ∧ OneState ns (t.take s).2 (t.take s').2 := by
  subst own
  obtain ⟨v, log, known, known'⟩ := same
  rw [Turn.takeLoaded known, Turn.takeLoaded known']
  exact ⟨rfl, .mk _ _ (Visit.settleState known) (Visit.settleState known')⟩

theorem takeBytes (own : t.service.ns = ns) (same : OneState ns s s') :
    (t.Keeps s → SameBytes ns (t.take s).2 (t.take s').2) ∧
    (¬ t.Keeps s → (t.take s).2.store = s.store ∧ (t.take s').2.store = s'.store) := by
  subst own
  obtain ⟨v, log, known, known'⟩ := same
  rw [Turn.keepsIff known, Turn.takeLoaded known, Turn.takeLoaded known']
  cases ((t.visit v).upshot _).kept with
  | none => simp [ByteStore.settle]
  | some next => simp [ByteStore.settle, SameBytes, Store.bytes?, ByteStore.cellPlant]

theorem tourAlike (own : ∀ t ∈ turns, t.service.ns = ns) (same : OneState ns s s') :
    (tour turns s).1 = (tour turns s').1 ∧ OneState ns (tour turns s).2 (tour turns s').2 := by
  induction turns generalizing s s' with
  | nil => exact ⟨rfl, same⟩
  | cons t rest ih =>
    obtain ⟨first, others⟩ := List.forall_mem_cons.mp own
    obtain ⟨answer, next⟩ := takeAlike first same
    obtain ⟨answers, last⟩ := ih others next
    exact ⟨by simp only [tour, answer, answers], last⟩

theorem tourSameBytes (own : ∀ t ∈ turns, t.service.ns = ns) (same : OneState ns s s')
    (bytes : SameBytes ns s s') : SameBytes ns (tour turns s).2 (tour turns s').2 := by
  induction turns generalizing s s' with
  | nil => exact bytes
  | cons t rest ih =>
    obtain ⟨first, others⟩ := List.forall_mem_cons.mp own
    refine ih others (takeAlike first same).2 ?_
    by_cases kept : t.Keeps s
    · exact (takeBytes first same).1 kept
    · obtain ⟨store, store'⟩ := (takeBytes first same).2 kept
      rw [SameBytes, store, store']
      exact bytes

theorem tourKeeping (own : ∀ t ∈ turns, t.service.ns = ns) (same : OneState ns s s')
    (kept : Keeping turns s) : SameBytes ns (tour turns s).2 (tour turns s').2 := by
  induction kept generalizing s' with
  | @now t rest s kept =>
    obtain ⟨first, others⟩ := List.forall_mem_cons.mp own
    have bytes := (takeBytes first same).1 kept
    have last : SameBytes ns (tour rest (t.take s).2).2 (tour rest (t.take s').2).2 :=
      tourSameBytes others (takeAlike first same).2 bytes
    exact last
  | @later t rest s kept ih =>
    obtain ⟨first, others⟩ := List.forall_mem_cons.mp own
    exact ih others (takeAlike first same).2

theorem tourQuiet (own : ∀ t ∈ turns, t.service.ns = ns) (same : OneState ns s s')
    (quiet : ¬ Keeping turns s) :
    (tour turns s).2.store = s.store ∧ (tour turns s').2.store = s'.store := by
  induction turns generalizing s s' with
  | nil => exact ⟨rfl, rfl⟩
  | cons t rest ih =>
    obtain ⟨first, others⟩ := List.forall_mem_cons.mp own
    obtain ⟨store, store'⟩ := (takeBytes first same).2 fun kept => quiet (.now kept)
    obtain ⟨last, last'⟩ := ih others (takeAlike first same).2 fun kept => quiet (.later kept)
    exact ⟨last.trans store, last'.trans store'⟩

theorem tourReply (own : ∀ t ∈ turns, t.service.ns = ns) (same : OneState ns s s') {r : Reply}
    (answered : .ok (.reply r) ∈ (tour turns s).1) : Keeping turns s := by
  induction turns generalizing s s' with
  | nil => cases answered
  | cons t rest ih =>
    obtain ⟨first, others⟩ := List.forall_mem_cons.mp own
    rcases List.mem_cons.mp answered with now | later
    · subst first
      obtain ⟨v, log, known, known'⟩ := same
      exact .now (Turn.keepsOfReply known now.symm)
    · exact .later (ih others (takeAlike first same).2 later)

end

/-- Two stores that spell one state in a namespace, or leave it out and the state is the first one, answer
every tour of its services alike. Both keep their own bytes until a mutation is kept, which every mutation
that answers is; from then on both hold the same bytes. -/
theorem stateAlone {ns : String} {b b' : ByteStore} {st : State} (known : b.stateAt ns = .ok st)
    (known' : b'.stateAt ns = .ok st) (v : Validator) (log : List Audit.Line) (turns : List Turn)
    (own : ∀ t ∈ turns, t.service.ns = ns) :
    let one := tour turns ⟨.bytes b, v, log⟩
    let other := tour turns ⟨.bytes b', v, log⟩
    one.1 = other.1 ∧ one.2.validator = other.2.validator ∧ one.2.log = other.2.log ∧
    (∀ r, .ok (.reply r) ∈ one.1 → Keeping turns ⟨.bytes b, v, log⟩) ∧
    (Keeping turns ⟨.bytes b, v, log⟩ →
      ∃ raw, one.2.store.bytes? ns = some raw ∧ other.2.store.bytes? ns = some raw) ∧
    (¬ Keeping turns ⟨.bytes b, v, log⟩ → one.2.store = .bytes b ∧ other.2.store = .bytes b') := by
  intro one other
  have same : OneState ns ⟨.bytes b, v, log⟩ ⟨.bytes b', v, log⟩ := .mk v log known known'
  obtain ⟨answers, last⟩ := tourAlike own same
  have alike : one.2.validator = other.2.validator ∧ one.2.log = other.2.log := by
    generalize one.2 = s at last
    generalize other.2 = s' at last
    cases last
    exact ⟨rfl, rfl⟩
  exact ⟨answers, alike.1, alike.2, fun r => tourReply own same, tourKeeping own same,
    tourQuiet own same⟩

def turnedAway : Turn := ⟨.console, .console [], .assertAdmin none⟩

def crowned : Turn :=
  ⟨.console, .console [], .change (.establish (.setInitialAdmin (.string "peter")))⟩

def offWord : String := " \x7b\"abolished\": \"Off\"\x7d"

theorem offWordVacant :
    (ByteStore.empty.plant "xyz" offWord.toUTF8).stateAt "xyz" = .ok .vacant := by
  have read : Json.read? .standard offWord = some (.object [("abolished", .string "Off")]) := by
    decide +kernel
  rw [ByteStore.stateAt, ByteStore.get, ByteStore.cellPlant]
  simp only [ByteStore.decode, Wire.ofBytesText read]
  rfl

theorem offWordConverges :
    let s : Site := ⟨.bytes .empty, .canonical Settings.trial.bounds, []⟩
    let s' : Site :=
      ⟨.bytes (ByteStore.empty.plant "xyz" offWord.toUTF8), .canonical Settings.trial.bounds, []⟩
    (tour [turnedAway, crowned] s).1 = (tour [turnedAway, crowned] s').1 ∧
      ∃ raw, (tour [turnedAway, crowned] s).2.store.bytes? "xyz" = some raw ∧
        (tour [turnedAway, crowned] s').2.store.bytes? "xyz" = some raw := by
  have fresh : ByteStore.empty.stateAt "xyz" = .ok .vacant := ByteStore.stateAtEmpty "xyz"
  have own : ∀ t ∈ [turnedAway, crowned], t.service.ns = "xyz" := by
    simp [turnedAway, crowned, Service.console]
  obtain ⟨answers, -, -, -, converges, -⟩ := stateAlone fresh offWordVacant
    (.canonical Settings.trial.bounds) [] [turnedAway, crowned] own
  have kept : Keeping [turnedAway, crowned] ⟨.bytes .empty, .canonical Settings.trial.bounds, []⟩ := by
    refine .later (.now ?_)
    rw [Turn.takeLoaded (t := turnedAway) fresh]
    exact (Turn.keepsIff (t := crowned) fresh).mpr ⟨.owned (some (.named "peter")), rfl⟩
  exact ⟨answers, converges kept⟩

end Handover

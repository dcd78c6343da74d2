import Handover.Proofs.Ledger
import Handover.Proofs.RequestEntry

/-!
The surroundings of an act. Binding fields by hand is the one act that changes them, and the identifier
that is active is out of its reach too.
-/
namespace Handover.Session

open World

def Act.isUntagged : Act → Bool
  | .bindFields fields => !(fields.map Prod.fst).contains "correlation_id"
  | _ => true

def Act.leaves (around : Audit.Surroundings) : Act → Audit.Surroundings
  | .bindFields fields => { around with fields := Table.putAll fields around.fields }
  | _ => around

namespace World

variable {w u v : World}

structure Fit (w : World) : Prop where
  generates : w.fresh ≠ ""
  made : ∀ e ∈ w.services, e.2.service.logger.Made
  unbound : "correlation_id" ∉ w.around.fields.map Prod.fst

structure Keeps (w v : World) : Prop where
  around : v.around = w.around
  fit : w.Fit → v.Fit

theorem keepsSame (around : v.around = w.around) (fresh : v.fresh = w.fresh)
    (services : v.services = w.services) : w.Keeps v where
  around := around
  fit := fun ⟨generates, made, unbound⟩ =>
    ⟨by rwa [fresh], by rwa [services], by rwa [around]⟩

theorem keepsThen (first : w.Keeps u) (next : u.Keeps v) : w.Keeps v where
  around := next.around.trans first.around
  fit := fun fit => next.fit (first.fit fit)

theorem keepsChanging {next : Except Failure World} (kept : ∀ v, next = .ok v → w.Keeps v) :
    w.Keeps (w.changing next).2 := by
  cases next with
  | error e => exact keepsSame rfl rfl rfl
  | ok v => exact kept v rfl

theorem keepsServe {α : Type} (name : String) (x : Service → Host → Action α) (f : α → Answer) :
    w.Keeps (w.serving name x f).2 := by
  unfold serving
  cases bound : w.bound? name with
  | none =>
    rw [serveUnbound bound]
    exact keepsSame rfl rfl rfl
  | some found =>
    obtain ⟨b, s, d⟩ := found
    rw [(serveBound bound x).2.2]
    exact keepsSame rfl rfl rfl

theorem keepsServeParty {α : Type} (name : String) (who : Json)
    (x : Service → Host → Option Party → Action α) (f : α → Answer) :
    w.Keeps (w.servingParty name who x f).2 := by
  unfold servingParty
  cases readParty who with
  | error e => exact keepsSame rfl rfl rfl
  | ok p => exact keepsServe name _ f

theorem keepsChange (name : String) (f : Store → Except Failure Store) :
    w.Keeps (w.changeStore name f).2 := by
  cases found : w.store name with
  | error e =>
    rw [changeMissing found]
    exact keepsSame rfl rfl rfl
  | ok named =>
    obtain ⟨i, s⟩ := named
    rw [changeStored found]
    refine keepsChanging fun v made => ?_
    cases kept : f s with
    | error e => rw [kept] at made; cases made
    | ok t => rw [kept] at made; cases made; exact keepsSame rfl rfl rfl

theorem keepsBind (name ns : String) (i j : Nat) : w.Keeps (w.bindService name ns i j).2 := by
  unfold bindService
  cases made : Service.make w.journal ns with
  | error m => exact keepsSame rfl rfl rfl
  | ok svc =>
    refine ⟨rfl, fun fit => ⟨fit.generates, fun e member => ?_, fit.unbound⟩⟩
    rcases Table.putMember member with rfl | old
    · unfold Service.make at made
      split at made <;> cases made
      exact ⟨_, _, _, _, rfl⟩
    · exact fit.made e old

theorem keepsSharing : w.Keeps w.shareOnDemand.2 := by
  unfold shareOnDemand
  cases w.shared with
  | some i => exact keepsSame rfl rfl rfl
  | none => exact keepsSame rfl rfl rfl

theorem keepsBootstrap (name : String) (draft : Option Draft) (store validator : Option String) :
    w.Keeps (w.bootstrap name draft store validator).2 := by
  unfold bootstrap
  split
  · exact keepsSame rfl rfl rfl
  rename_i settings chosen
  dsimp only
  split
  · exact keepsSame rfl rfl rfl
  rename_i i u given
  have shared : w.Keeps u := by
    split at given
    · cases found : w.store _ with
      | error e => rw [found] at given; cases given
      | ok named => rw [found] at given; cases given; exact keepsSame rfl rfl rfl
    · have same : u = w.shareOnDemand.2 := (congrArg Prod.snd (Except.ok.inj given)).symm
      rw [same]
      exact keepsSharing
  split
  · exact shared
  rename_i j u' made
  refine keepsThen (keepsThen shared ?_) (keepsBind name settings.ns i j)
  split at made
  · cases found : u.validator _ with
    | error e => rw [found] at made; cases made
    | ok named => rw [found] at made; cases made; exact keepsSame rfl rfl rfl
  · cases made
    exact keepsSame rfl rfl rfl

theorem performKeeps {a : Act} (plain : ∀ fields, a ≠ .bindFields fields) : w.Keeps (w.perform a).2 := by
  cases a with
  | makeStore name kind => cases kind <;> exact keepsSame rfl rfl rfl
  | makeValidator name kind =>
    refine keepsChanging fun v made => ?_
    cases kind with
    | listed => cases made; exact keepsSame rfl rfl rfl
    | canonical d =>
      simp only [bind, Except.bind] at made
      split at made <;> cases made
      exact keepsSame rfl rfl rfl
  | refuse name raw =>
    refine keepsChanging fun v made => ?_
    simp only [bind, Except.bind] at made
    split at made <;> try contradiction
    split at made <;> cases made
    exact keepsSame rfl rfl rfl
  | validate name raw =>
    simp only [perform, validateRaw]
    split <;> exact keepsSame rfl rfl rfl
  | makeService name ns store validator =>
    simp only [perform]
    split
    · exact keepsBind ..
    all_goals exact keepsSame rfl rfl rfl
  | bootstrap name draft store validator => exact keepsBootstrap name draft store validator
  | sharedStore name => exact keepsThen keepsSharing (keepsSame rfl rfl rfl)
  | shareStore store =>
    cases store with
    | none => exact keepsSame rfl rfl rfl
    | some name =>
      refine keepsChanging fun v made => ?_
      cases found : w.store name with
      | error e => rw [found] at made; cases made
      | ok named => rw [found] at made; cases made; exact keepsSame rfl rfl rfl
  | establish name r =>
    simp only [perform]
    cases r.request with
    | error e => exact keepsSame rfl rfl rfl
    | ok r => exact keepsServe name _ _
  | update name sender r =>
    simp only [perform]
    cases readParty sender with
    | error e => exact keepsSame rfl rfl rfl
    | ok p =>
      cases r.request with
      | error e => exact keepsSame rfl rfl rfl
      | ok r => exact keepsServe name _ _
  | query name => exact keepsServe name _ _
  | isAdmin name who => exact keepsServeParty name who _ _
  | isProposed name who => exact keepsServeParty name who _ _
  | assertAdmin name who => exact keepsServeParty name who _ _
  | assertProposed name who => exact keepsServeParty name who _ _
  | get name ns =>
    simp only [perform, getRecord]
    split <;> exact keepsSame rfl rfl rfl
  | set name ns r => exact keepsChange name _
  | seed name ns r => exact keepsChange name _
  | plant name ns raw => exact keepsChange name _
  | setFailures name get set => exact keepsChange name _
  | clear name => exact keepsChange name _
  | configure draft =>
    simp only [perform]
    split <;> exact keepsSame rfl rfl rfl
  | bindFields fields => exact (plain fields rfl).elim
  | log level event fields =>
    refine keepsChanging fun v made => ?_
    cases taken : Audit.Logger.call ⟨w.journal, []⟩ w.around level event fields with
    | error e => rw [taken] at made; cases made
    | ok lines => rw [taken] at made; cases made; exact keepsSame rfl rfl rfl
  | logRequest service ns component operation r sender event =>
    refine keepsChanging fun v made => ?_
    simp only [bind, Except.bind] at made
    split at made <;> try contradiction
    split at made <;> try contradiction
    split at made <;> cases made
    exact keepsSame rfl rfl rfl
  | _ => exact keepsSame rfl rfl rfl

theorem performAround (w : World) (a : Act) : (w.perform a).2.around = a.leaves w.around := by
  cases a with
  | bindFields fields => rfl
  | _ => exact (performKeeps fun _ same => by cases same).around

theorem performFit {a : Act} (untagged : a.isUntagged = true) (fit : w.Fit) : (w.perform a).2.Fit := by
  cases a with
  | bindFields fields =>
    refine ⟨fit.generates, fit.made, fun named => ?_⟩
    rcases Table.putAllNamed.mp named with tagged | old
    · simp [Act.isUntagged, tagged] at untagged
    · exact fit.unbound old
  | _ => exact (performKeeps fun _ same => by cases same).fit fit

theorem boundMade (fit : w.Fit) {name : String} {b : Binding} {s : Store} {d : Validator}
    (bound : w.bound? name = some (b, s, d)) : b.service.logger.Made := by
  unfold bound? at bound
  split at bound
  · cases bound
  rename_i b' found
  split at bound <;> cases bound
  unfold find at found
  split at found <;> cases found
  rename_i named
  exact fit.made _ (Table.getInside named)

end World

end Handover.Session

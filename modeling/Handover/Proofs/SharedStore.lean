import Handover.Proofs.Lending

/-!
Services on the shared store. A service that is made without a store of its own works for good on the one
that was shared when it was made, whatever is shared later; so of two such services each is told of what
the other changes just if one store was shared when they were made.
-/
namespace Handover

namespace Action

variable {α β : Type}

def Unaided (x : Action α) : Prop :=
  ∀ (s : Site) (d : Validator), x { s with validator := d } = ((x s).1, { (x s).2 with validator := d })

theorem unaidedPure (a : α) : Unaided (pure a : Action α) := fun _ _ => rfl

theorem unaidedFail (e : Failure) : Unaided (fail e : Action α) := fun _ _ => rfl

theorem unaidedNote (lines : Except Audit.Loss (List Audit.Line)) : Unaided (note lines) := by
  intro s d
  cases lines <;> rfl

theorem unaidedBind {x : Action α} {f : α → Action β} (first : Unaided x) (next : ∀ a, Unaided (f a)) :
    Unaided (x >>= f) := by
  intro s d
  have before := first s d
  cases done : x s with
  | mk result t =>
    rw [done] at before
    cases result with
    | ok a =>
      rw [bindOk f done, bindOk f before]
      exact next a t d
    | error e => rw [bindError f done, bindError f before]

theorem unaidedFailNoting (f : Fault) (lines : Except Audit.Loss (List Audit.Line)) :
    Unaided (failNoting f lines : Action α) :=
  unaidedBind (unaidedNote lines) fun _ => unaidedFail _

end Action

theorem loadUnaided (h : Host) (ns : String) : (h.load ns).Unaided := by
  intro s d
  simp only [Host.load]
  cases (s.store.get ns).1 with
  | ok r => rfl
  | error f => exact Action.unaidedFailNoting f _ { s with store := _ } d

namespace Service

theorem stateUnaided (svc : Service) (h : Host) : (svc.state h).Unaided :=
  Action.unaidedBind (loadUnaided h svc.ns) fun _ => Action.unaidedPure _

theorem surveyUnaided (svc : Service) (h : Host) : (svc.survey h).Unaided := by
  have asking {α : Type} (f : State → α) : Action.Unaided (do return f (← svc.state h)) :=
    Action.unaidedBind (svc.stateUnaided h) fun _ => Action.unaidedPure _
  refine Action.unaidedBind (asking State.admin) fun _ => ?_
  refine Action.unaidedBind (asking State.proposed) fun _ => ?_
  refine Action.unaidedBind (asking State.isAbolished) fun _ => ?_
  refine Action.unaidedBind (asking State.view) fun _ => ?_
  exact Action.unaidedBind (asking State.view) fun _ => Action.unaidedPure _

theorem surveyAlike {svc other : Service} (same : svc.ns = other.ns) (h : Host) :
    svc.survey h = other.survey h := by
  cases svc
  cases other
  cases same
  rfl

end Service

def Reply.told : Reply → Session.Answer
  | .view v => .view v
  | .event e => .event e

namespace Session

open World

def Act.mutation? : Act → Option (String × Mutation)
  | .establish name r => do return (name, .establish (← r.request.toOption))
  | .update name sender r => do
    return (name, .update (← (readParty sender).toOption) (← r.request.toOption))
  | _ => none

structure Creation where
  name : String
  draft : Option Draft
  validator : Option String

def Creation.act (c : Creation) : Act := .bootstrap c.name c.draft none c.validator

namespace World

variable {w u v : World} {a : Act} {name ns : String} {b c : Binding} {s : Store} {d e : Validator}
  {m : Mutation}

def told (w : World) (name : String) : Except Failure Answer := (w.perform (.query name)).1

structure Stands (w : World) (name : String) (b : Binding) : Prop where
  found : find name w.services = .ok b
  store : b.store < w.stores.length
  validator : b.validator < w.validators.length

theorem standsBound (stands : w.Stands name b) :
    ∃ s d, w.bound? name = some (b, s, d) ∧ w.stores[b.store]? = some s := by
  obtain ⟨s, stored⟩ : ∃ s, w.stores[b.store]? = some s :=
    ⟨_, List.getElem?_eq_getElem stands.store⟩
  obtain ⟨d, held⟩ : ∃ d, w.validators[b.validator]? = some d :=
    ⟨_, List.getElem?_eq_getElem stands.validator⟩
  exact ⟨s, d, by simp only [bound?, stands.found, stored, held], stored⟩

theorem standsAfter {acts : List Act} (stands : w.Stands name b)
    (apart : ∀ a ∈ acts, a.binds? ≠ some name) : (w.after acts).Stands name b := by
  refine afterInduct (P := fun v => v.Stands name b) stands fun v a member stands => ?_
  have carried := performCarries v a
  exact ⟨(carried.services name (apart a member)).trans stands.found,
    Nat.lt_of_lt_of_le stands.store carried.stores,
    Nat.lt_of_lt_of_le stands.validator carried.validators⟩

theorem bindServiceFinds {ns' : String} {i j : Nat}
    (made : (w.bindService name ns i j).1 = .ok (.text ns')) :
    ns = ns' ∧ ∃ svc : Service, svc.ns = ns ∧
      find name (w.bindService name ns i j).2.services = .ok ⟨svc, i, j⟩ := by
  unfold bindService at made ⊢
  split at made
  · cases made
  rename_i svc ready
  cases made
  refine ⟨rfl, svc, ?_, ?_⟩
  · unfold Service.make at ready
    split at ready <;> cases ready
    rfl
  · simp only [find, Table.getPutSelf]

theorem createdStands {c : Creation} (placed : w.Placed) (made : (w.perform c.act).1 = .ok (.text ns)) :
    w.handsOut? c.act = some w.home ∧
    ∃ b : Binding, b.store = w.home ∧ b.service.ns = ns ∧ (w.after [c.act]).Stands c.name b := by
  have course := bootstraps w c.name c.draft none c.validator
  rw [afterOne]
  simp only [Creation.act, perform] at made ⊢
  generalize w.bootstrap c.name c.draft none c.validator = done at course made ⊢
  cases course with
  | misfit failed => cases made
  | storeless e chosen asked => cases asked
  | unvalidated e chosen given => cases made
  | @bound settings i j u v chosen given supplied =>
    cases given
    have handed : w.handsOut? c.act = some w.home := by simp only [Creation.act, handsOut?, chosen]
    obtain ⟨rfl, svc, own, found⟩ := bindServiceFinds made
    have carried := carriesBind (w := v) c.name settings.ns w.home j
    have supply := Nat.lt_of_lt_of_le supplied.inside carried.validators
    refine ⟨handed, ⟨svc, w.home, j⟩, rfl, own, found, ?_, supply⟩
    refine Nat.lt_of_lt_of_le ?_ carried.stores
    rw [supplied.stores]
    exact homePlaced placed

theorem toldAlike {other : String} (first : u.bound? name = some (b, s, d))
    (next : v.bound? other = some (c, s, e)) (alike : b.service.ns = c.service.ns)
    (host : u.host = v.host) : u.told name = v.told other := by
  have unaided := congrArg Prod.fst (c.service.surveyUnaided v.host ⟨s, d, []⟩ e)
  simp only [told, perform, serving, (serveBound first _).2.2, (serveBound next _).2.2]
  rw [Service.surveyAlike alike, host, unaided]

structure Enacts (u v : World) (answer : Except Failure Answer) (call : Call) (i : Nat) (s : Store) :
    Prop where
  answer : answer = (call.answer s).map Reply.told
  stores : v.stores = u.stores.set i (call.after s)
  host : v.host = u.host

theorem servingEnacts {α : Type} {x : Service → Host → Action α} {f : α → Answer}
    (wrap : α → Reply)
    (bound : u.bound? name = some (b, s, d)) (answers : ∀ r, (wrap r).told = f r)
    (does : (Call.mk b.service u.host d m).perform = do return wrap (← x b.service u.host)) :
    u.Enacts (u.serving name x f).2 (u.serving name x f).1 (Call.mk b.service u.host d m) b.store s := by
  have ran := Action.returnRun wrap (x b.service u.host) ⟨s, d, []⟩
  rw [← does] at ran
  have served := (serveBound bound x).2.2
  refine ⟨?_, ?_, ?_⟩
  · simp only [serving, served, Call.answer, Call.site, ran]
    cases (x b.service u.host ⟨s, d, []⟩).1 with
    | error e => rfl
    | ok r => simp only [Except.map, answers]
  · simp only [serving, served, Call.after, Call.site, ran]
    rfl
  · simp only [serving, served]
    rfl

theorem mutationEnacts (asked : a.mutation? = some (name, m)) (bound : u.bound? name = some (b, s, d)) :
    u.Enacts (u.after [a]) (u.perform a).1 (Call.mk b.service u.host d m) b.store s := by
  have enacts : u.Enacts (u.perform a).2 (u.perform a).1 (Call.mk b.service u.host d m) b.store s := by
    cases a with
    | establish other r =>
      simp only [Act.mutation?] at asked
      simp only [perform]
      cases taken : r.request with
      | error e => rw [taken] at asked; cases asked
      | ok r =>
        rw [taken] at asked
        cases asked
        exact servingEnacts .view bound (fun _ => rfl) rfl
    | update other sender r =>
      simp only [Act.mutation?] at asked
      simp only [perform]
      cases read : readParty sender with
      | error e => rw [read] at asked; cases asked
      | ok p =>
        cases taken : r.request with
        | error e => rw [read, taken] at asked; cases asked
        | ok r =>
          rw [read, taken] at asked
          cases asked
          exact servingEnacts .event bound (fun _ => rfl) rfl
    | _ => cases asked
  exact ⟨enacts.answer, enacts.stores, enacts.host⟩

theorem mutationBinds (asked : a.mutation? = some (name, m)) : a.binds? = none := by
  cases a with
  | makeService => cases asked
  | bootstrap => cases asked
  | _ => rfl

/-- The service of a name works on the store at a place, whatever happens, until the name is given to
another: it is told what that store holds, and of all stores its mutations change that one. -/
def Stays (w : World) (name ns : String) (i : Nat) : Prop :=
  ∃ b : Binding, b.store = i ∧ b.service.ns = ns ∧
    ∀ rest : List Act, (∀ a ∈ rest, a.binds? ≠ some name) →
      let u := w.after rest
      ∃ (s : Store) (d : Validator), u.bound? name = some (b, s, d) ∧ u.stores[i]? = some s ∧
        u.told name = (b.service.survey u.host ⟨s, d, []⟩).1.map .survey ∧
        ∀ (a : Act) (m : Mutation), a.mutation? = some (name, m) →
          u.Enacts (u.after [a]) (u.perform a).1 ⟨b.service, u.host, d, m⟩ i s

def Tells (u : World) (name other : String) (together : Prop) : Prop :=
  ∀ (a : Act) (m : Mutation), a.mutation? = some (name, m) →
    let v := u.after [a]
    (together → u.told other = u.told name ∧ v.told other = v.told name) ∧
    (¬ together → v.told other = u.told other) ∧
    (v.told name ≠ u.told name → (v.told other ≠ u.told other ↔ together))

theorem standsStays (stands : w.Stands name b) : w.Stays name b.service.ns b.store := by
  refine ⟨b, rfl, rfl, fun rest apart => ?_⟩
  obtain ⟨s, d, bound, stored⟩ := standsBound (standsAfter stands apart)
  refine ⟨s, d, bound, stored, ?_, fun a m asked => mutationEnacts asked bound⟩
  simp only [told, perform, serving, (serveBound bound _).2.2]

theorem standsTells {other : String} (first : u.Stands name b) (next : u.Stands other c)
    (alike : b.service.ns = c.service.ns) : u.Tells name other (b.store = c.store) := by
  intro a m asked v
  have apart (n : String) : ∀ x ∈ [a], x.binds? ≠ some n := by simp [mutationBinds asked]
  obtain ⟨s, d, bound, stored⟩ := standsBound first
  obtain ⟨t, e, bound', stored'⟩ := standsBound next
  obtain ⟨s', d', later, kept⟩ := standsBound (standsAfter first (apart name))
  obtain ⟨t', e', later', kept'⟩ := standsBound (standsAfter next (apart other))
  have enacts := mutationEnacts asked bound
  have shown (together : b.store = c.store) : u.told other = u.told name ∧ v.told other = v.told name := by
    rw [together] at stored kept
    obtain rfl : s = t := Option.some.inj (stored.symm.trans stored')
    obtain rfl : s' = t' := Option.some.inj (kept.symm.trans kept')
    exact ⟨toldAlike bound' bound alike.symm rfl, toldAlike later' later alike.symm rfl⟩
  have hidden (parted : b.store ≠ c.store) : v.told other = u.told other := by
    rw [enacts.stores, List.getElem?_set_ne parted, stored'] at kept'
    obtain rfl : t = t' := Option.some.inj kept'
    exact toldAlike later' bound' rfl enacts.host
  refine ⟨shown, hidden, fun changed => ⟨fun noticed => ?_, fun together => ?_⟩⟩
  · exact Decidable.byContradiction fun parted => noticed (hidden parted)
  · obtain ⟨before, after⟩ := shown together
    rw [before, after]
    exact changed

theorem sharedAsked (placed : w.Placed) (name : String) :
    ∃ s, (w.perform (.sharedStore name)).1 = .ok (.shared s (w.namesOf w.home)) ∧
      (w.after [.sharedStore name]).store name = .ok (w.home, s) := by
  have inside := homePlaced placed
  have names : w.shareOnDemand.2.storeNames = w.storeNames := by
    unfold shareOnDemand
    cases w.shared <;> rfl
  rw [afterOne]
  unfold home at inside ⊢
  simp only [perform]
  cases sharing : w.shareOnDemand with
  | mk i v =>
    rw [sharing] at inside names
    have kept : v.storeNames = w.storeNames := names
    obtain ⟨s, stored⟩ : ∃ s, v.stores[i]? = some s := ⟨_, List.getElem?_eq_getElem inside⟩
    refine ⟨s, ?_, ?_⟩
    · simp only [stored, namesOf, kept]
    · simp only [store, place, nameStore, find, Table.getPutSelf, bind, Except.bind, stored]

theorem settingsNamed {draft : Option Draft} {settings : Settings}
    (chosen : w.settings draft = .ok settings) : settings.ns ≠ "" := by
  have drafted {d : Draft} (built : (Settings.ofDraft d).mapError Failure.misfit = .ok settings) :
      settings.ns ≠ "" := by
    unfold Settings.ofDraft at built
    split at built <;> try contradiction
    rename_i named
    split at built <;> try contradiction
    split at built <;> try contradiction
    split at built <;> try contradiction
    cases built
    exact named
  cases draft with
  | none => exact drafted chosen
  | some d => exact drafted chosen

theorem creationAnswers {c : Creation} {settings : Settings} (chosen : w.settings c.draft = .ok settings)
    (known : ∀ n, c.validator = some n → ∃ j d, w.validator n = .ok (j, d)) :
    (w.perform c.act).1 = .ok (.text settings.ns) := by
  have made {v : World} (i j : Nat) : (v.bindService c.name settings.ns i j).1 = .ok (.text settings.ns) := by
    simp only [bindService, Service.make, if_neg (settingsNamed chosen)]
  have kept (n : String) : w.shareOnDemand.2.validator n = w.validator n := by
    unfold shareOnDemand
    cases w.shared <;> rfl
  simp only [Creation.act, perform, bootstrap, chosen]
  cases supplied : c.validator with
  | none => exact made _ _
  | some n =>
    obtain ⟨j, d, found⟩ := known n supplied
    simp only [kept, found]
    exact made _ _

theorem createdStays {c : Creation} (placed : w.Placed) (made : (w.perform c.act).1 = .ok (.text ns)) :
    (w.after [c.act]).Stays c.name ns w.home ∧ (w.after [c.act]).LendsOnly w.home := by
  obtain ⟨handed, b, home, own, stands⟩ := createdStands placed made
  refine ⟨?_, lendsOnly (handedShared handed)⟩
  rw [← home, ← own]
  exact standsStays stands

theorem createdTell {c d : Creation} {middle rest : List Act} (placed : w.Placed) (differ : c.name ≠ d.name)
    (named : ∀ a ∈ middle ++ rest, a.binds? ≠ some c.name)
    (named' : ∀ a ∈ rest, a.binds? ≠ some d.name)
    (same : w.after (c.act :: middle) = v) (made : (w.perform c.act).1 = .ok (.text ns))
    (made' : (v.perform d.act).1 = .ok (.text ns)) :
    (v.after (d.act :: rest)).Tells c.name d.name (w.home = v.home) ∧
      (v.after (d.act :: rest)).Tells d.name c.name (w.home = v.home) := by
  have placed' : v.Placed := same ▸ afterPlaced placed (c.act :: middle)
  obtain ⟨-, b, home, own, stands⟩ := createdStands placed made
  obtain ⟨-, b', home', own', stands'⟩ := createdStands placed' made'
  -- the second making is one of the later acts of the first service, and puts a service under another name
  have first : (v.after (d.act :: rest)).Stands c.name b := by
    have later : v.after (d.act :: rest) = (w.after [c.act]).after (middle ++ d.act :: rest) := by
      rw [afterAppend, ← afterCons, same]
    rw [later]
    refine standsAfter stands fun a member => ?_
    rcases List.mem_append.mp member with early | late
    · exact named a (List.mem_append_left _ early)
    rcases List.mem_cons.mp late with rfl | later
    · exact fun taken => differ (Option.some.inj taken).symm
    · exact named a (List.mem_append_right _ later)
  have next : (v.after (d.act :: rest)).Stands d.name b' := by
    rw [afterCons]
    exact standsAfter stands' named'
  have alike : b.service.ns = b'.service.ns := own.trans own'.symm
  rw [← home, ← home']
  refine ⟨standsTells first next alike, ?_⟩
  rw [eq_comm]
  exact standsTells next first alike.symm

/-- After any acts: whoever asks is handed the store that was put in the place of the shared one or, after a
reset, a new empty one, and everyone the same until the next replacement. A service can be made without a
store of its own whenever there are settings for it. It works on the store that is shared then for good, and
of two such services each is told of what the other changes just if one store was shared at both times. -/
theorem servicesStay (environment : Settings.Environment) (time fresh : String) (past : List Act) :
    let w := (start environment time fresh).after past
    (start environment time fresh).LendsFresh ∧
    (∀ name : String, ∃ s, (w.perform (.sharedStore name)).1 = .ok (.shared s (w.namesOf w.home)) ∧
      (w.after [.sharedStore name]).store name = .ok (w.home, s)) ∧
    (∀ (name : String) (i : Nat) (s : Store), w.store name = .ok (i, s) →
      (w.after [.shareStore (some name)]).home = i ∧ (w.after [.shareStore (some name)]).LendsOnly i) ∧
    (w.after [.shareStore none]).LendsFresh ∧
    (∀ (a : Act) (i : Nat), w.handsOut? a = some i → (w.after [a]).LendsOnly i) ∧
    (∀ (c : Creation) (settings : Settings), w.settings c.draft = .ok settings →
      (∀ n, c.validator = some n → ∃ j d, w.validator n = .ok (j, d)) →
      (w.perform c.act).1 = .ok (.text settings.ns)) ∧
    (∀ (c : Creation) (ns : String), (w.perform c.act).1 = .ok (.text ns) →
      (w.after [c.act]).Stays c.name ns w.home ∧ (w.after [c.act]).LendsOnly w.home) ∧
    ∀ (c d : Creation) (ns : String) (middle rest : List Act), c.name ≠ d.name →
      (∀ a ∈ middle ++ rest, a.binds? ≠ some c.name) → (∀ a ∈ rest, a.binds? ≠ some d.name) →
      let v := w.after (c.act :: middle)
      let u := v.after (d.act :: rest)
      (w.perform c.act).1 = .ok (.text ns) → (v.perform d.act).1 = .ok (.text ns) →
      u.Tells c.name d.name (w.home = v.home) ∧ u.Tells d.name c.name (w.home = v.home) := by
  intro w
  have placed : w.Placed := afterPlaced (startPlaced environment time fresh) past
  refine ⟨lendsFresh rfl, sharedAsked placed, fun name i s found => ?_, lendsFresh rfl,
    fun a i handed => lendsOnly (handedShared handed), fun c settings chosen => creationAnswers chosen,
    fun c ns made => createdStays placed made, ?_⟩
  · have shared := installedShared found
    exact ⟨homeShared shared, lendsOnly shared⟩
  · intro c d ns middle rest differ named named' v u made made'
    exact createdTell placed differ named named' rfl made made'

end World

def lodger (name : String) : Creation := ⟨name, some { Draft.standard with ns := "shared" }, none⟩

def seating : Act := .establish "a" (.direct (.setInitialAdmin (.string "peter")))

def installed : World := (start [] "" "").after [.makeStore "s" .plain, .shareStore (some "s")]

theorem partedByReset :
    let near := (installed.after [(lodger "a").act]).after [(lodger "b").act]
    let far := (installed.after [(lodger "a").act, .shareStore none]).after [(lodger "b").act]
    (near.after [seating]).told "b" = (near.after [seating]).told "a" ∧
    (near.after [seating]).told "b" ≠ near.told "b" ∧
    (far.after [seating]).told "b" = far.told "b" ∧
    (installed.after [(lodger "a").act]).LendsOnly installed.home := by
  intro near far
  obtain ⟨-, -, -, -, -, -, staying, telling⟩ :=
    servicesStay [] "" "" [.makeStore "s" .plain, .shareStore (some "s")]
  obtain ⟨together, -⟩ :=
    telling (lodger "a") (lodger "b") "shared" [] [] (by decide) (by decide) (by decide) rfl rfl
  obtain ⟨parted, -⟩ := telling (lodger "a") (lodger "b") "shared" [.shareStore none] [] (by decide)
    (by decide) (by decide) rfl rfl
  have asked : seating.mutation? = some ("a", .establish (.setInitialAdmin (.string "peter"))) := rfl
  obtain ⟨shown, -, noticed⟩ := together seating _ asked
  obtain ⟨-, hidden, -⟩ := parted seating _ asked
  have changed : (near.after [seating]).told "a" ≠ near.told "a" := by
    intro same
    have vacant : near.told "a" =
      .ok (.survey ⟨none, none, false, ⟨none, none⟩, ⟨none, none⟩⟩) := rfl
    have seated : (near.after [seating]).told "a" = .ok (.survey
      ⟨some (.named "peter"), none, false, ⟨some "peter", none⟩, ⟨some "peter", none⟩⟩) := rfl
    rw [vacant, seated] at same
    cases same
  exact ⟨(shown rfl).2, (noticed changed).mpr rfl, hidden (by decide),
    (staying (lodger "a") "shared" rfl).2⟩

end Session

end Handover

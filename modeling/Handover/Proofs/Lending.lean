import Handover.Proofs.Ledger

/-!
The shared store as it is handed out. Asking for it hands out its place, and so does making a service without
a store of its own; if there is no shared store yet, one is made. Until another is put in its place it is
handed out to everyone, and after a reset the next one is new and empty.
-/
namespace Handover.Session

open World

def Act.replaces : Act → Bool
  | .shareStore _ => true
  | _ => false

def Act.binds? : Act → Option String
  | .makeService name _ _ _ | .bootstrap name _ _ _ => some name
  | _ => none

namespace World

def after (w : World) (acts : List Act) : World := (runAll false w (acts.map .act)).2.2

def home (w : World) : Nat := w.shareOnDemand.1

def handsOut? (w : World) : Act → Option Nat
  | .sharedStore _ => some w.home
  | .bootstrap _ draft none _ =>
    match w.settings draft with
    | .ok _ => some w.home
    | .error _ => none
  | _ => none

def handouts (w : World) : List Act → List Nat
  | [] => []
  | a :: rest => (w.handsOut? a).toList ++ (w.after [a]).handouts rest

def sharedAfter (w : World) : Act → Option Nat
  | .shareStore none => none
  | .shareStore (some name) =>
    match w.store name with
    | .ok (i, _) => some i
    | .error _ => w.shared
  | a => (w.handsOut? a).or w.shared

def LendsOnly (w : World) (i : Nat) : Prop :=
  ∀ acts : List Act, (∀ a ∈ acts, a.replaces = false) → ∀ j ∈ w.handouts acts, j = i

def LendsFresh (w : World) : Prop :=
  ∀ (acts : List Act) (a : Act) (i : Nat), (∀ b ∈ acts, b.replaces = false) → w.handouts acts = [] →
    (w.after acts).handsOut? a = some i →
      (w.after acts).stores[i]? = none ∧ (w.after (acts ++ [a])).stores[i]? = some (.bytes .empty)

variable {w u v : World} {a : Act} {name : String} {i : Nat}

theorem afterOne (w : World) (a : Act) : w.after [a] = { (w.perform a).2 with lines := [] } := rfl

theorem afterCons (w : World) (a : Act) (rest : List Act) :
    w.after (a :: rest) = (w.after [a]).after rest := rfl

theorem afterAppend (w : World) (first rest : List Act) :
    w.after (first ++ rest) = (w.after first).after rest := by
  induction first generalizing w with
  | nil => rfl
  | cons a first ih => rw [List.cons_append, afterCons, ih, ← afterCons]

structure Carries (w v : World) (shared : Option Nat) (named : Option String) : Prop where
  stores : w.stores.length ≤ v.stores.length
  validators : w.validators.length ≤ v.validators.length
  shared : v.shared = shared
  services : ∀ other, named ≠ some other → find other v.services = find other w.services

section
variable {shared before : Option Nat} {named : Option String}

theorem carriesThen (first : w.Carries u before named) (next : u.Carries v shared named) :
    w.Carries v shared named where
  stores := Nat.le_trans first.stores next.stores
  validators := Nat.le_trans first.validators next.validators
  shared := next.shared
  services other apart := (next.services other apart).trans (first.services other apart)

theorem carriesMore (stores : w.stores.length ≤ v.stores.length)
    (validators : w.validators.length ≤ v.validators.length) (same : v.shared = shared)
    (services : v.services = w.services) : w.Carries v shared named :=
  ⟨stores, validators, same, fun _ _ => by rw [services]⟩

theorem carriesSame (w : World) : w.Carries w w.shared named :=
  carriesMore (Nat.le_refl _) (Nat.le_refl _) rfl rfl

theorem carriesChanging {next : Except Failure World}
    (kept : ∀ v, next = .ok v → w.Carries v w.shared named) :
    w.Carries (w.changing next).2 w.shared named := by
  cases next with
  | error e => exact carriesSame w
  | ok v => exact kept v rfl

theorem carriesServe {α : Type} (name : String) (x : Service → Host → Action α) (f : α → Answer) :
    w.Carries (w.serving name x f).2 w.shared named := by
  unfold serving
  cases bound : w.bound? name with
  | none =>
    rw [serveUnbound bound]
    exact carriesSame w
  | some found =>
    obtain ⟨b, s, d⟩ := found
    rw [(serveBound bound x).2.2]
    exact carriesMore (by simp [note, putValidator, putStore]) (by simp [note, putValidator, putStore])
      rfl rfl

theorem carriesServeParty {α : Type} (name : String) (who : Json)
    (x : Service → Host → Option Party → Action α) (f : α → Answer) :
    w.Carries (w.servingParty name who x f).2 w.shared named := by
  unfold servingParty
  cases readParty who with
  | error e => exact carriesSame w
  | ok p => exact carriesServe name _ f

theorem carriesChange (name : String) (f : Store → Except Failure Store) :
    w.Carries (w.changeStore name f).2 w.shared named := by
  cases found : w.store name with
  | error e =>
    rw [changeMissing found]
    exact carriesSame w
  | ok stored =>
    obtain ⟨i, s⟩ := stored
    rw [changeStored found]
    refine carriesChanging fun v made => ?_
    cases kept : f s with
    | error e => rw [kept] at made; cases made
    | ok t => rw [kept] at made; cases made; exact carriesMore (by simp [putStore]) (Nat.le_refl _) rfl rfl

theorem carriesBind (name ns : String) (i j : Nat) :
    w.Carries (w.bindService name ns i j).2 w.shared (some name) := by
  unfold bindService
  split
  · exact carriesSame w
  · refine ⟨(Nat.le_refl _), (Nat.le_refl _), rfl, fun other apart => ?_⟩
    have differ : other ≠ name := fun same => apart (same ▸ rfl)
    simp only [find, Table.getPutOther _ _ differ]

theorem sharingShared (w : World) : w.shareOnDemand.2.shared = some w.home := by
  unfold home shareOnDemand
  cases held : w.shared with
  | some i => exact held
  | none => rfl

theorem carriesSharing (w : World) : w.Carries w.shareOnDemand.2 (some w.home) named := by
  refine ⟨?_, ?_, sharingShared w, fun other _ => ?_⟩ <;> unfold shareOnDemand <;> cases w.shared <;>
    simp [addStore]

/-- The store that a new service is given: the one of its name, or else the shared one. -/
inductive Given (w : World) : Option String → Nat → World → Prop
  | shared : Given w none w.home w.shareOnDemand.2
  | named {n i s} (found : w.store n = .ok (i, s)) : Given w (some n) i w

structure Supplied (u v : World) (j : Nat) : Prop where
  carries : ∀ named, u.Carries v u.shared named
  stores : v.stores = u.stores
  inside : j < v.validators.length

inductive Bootstraps (w : World) (name : String) (draft : Option Draft) (store : Option String) :
    Except Failure Answer × World → Prop
  | misfit {e} (failed : w.settings draft = .error e) : Bootstraps w name draft store (.error e, w)
  | storeless {n settings} (e) (chosen : w.settings draft = .ok settings) (asked : store = some n) :
    Bootstraps w name draft store (.error e, w)
  | unvalidated {settings i u} (e) (chosen : w.settings draft = .ok settings) (given : Given w store i u) :
    Bootstraps w name draft store (.error e, u)
  | bound {settings i j u v} (chosen : w.settings draft = .ok settings) (given : Given w store i u)
      (supplied : Supplied u v j) :
    Bootstraps w name draft store (v.bindService name settings.ns i j)

theorem validatorPlaced {j : Nat} {d : Validator} (found : w.validator name = .ok (j, d)) :
    w.validators[j]? = some d := by
  unfold validator place at found
  cases named : find name w.validatorNames with
  | error e => rw [named] at found; cases found
  | ok k =>
    simp only [named, bind, Except.bind] at found
    split at found <;> cases found
    assumption

theorem bootstraps (w : World) (name : String) (draft : Option Draft) (store validator : Option String) :
    Bootstraps w name draft store (w.bootstrap name draft store validator) := by
  unfold bootstrap
  split
  · rename_i e failed
    exact .misfit failed
  rename_i settings chosen
  dsimp only
  split
  · cases store with
    | none => contradiction
    | some n => exact .storeless _ chosen rfl
  rename_i i u lent
  have given : Given w store i u := by
    cases store with
    | none =>
      have lending : w.shareOnDemand = (i, u) := Except.ok.inj lent
      have home : w.home = i := congrArg Prod.fst lending
      have sharing : w.shareOnDemand.2 = u := congrArg Prod.snd lending
      rw [← home, ← sharing]
      exact .shared
    | some n =>
      cases found : w.store n with
      | error e => simp only [found] at lent; cases lent
      | ok named => simp only [found] at lent; cases lent; exact .named found
  split
  · exact .unvalidated _ chosen given
  rename_i j v lent
  refine .bound chosen given ?_
  cases validator with
  | none =>
    cases lent
    exact ⟨fun _ => carriesMore (Nat.le_refl _) (by simp) rfl rfl, rfl, by simp⟩
  | some n =>
    cases found : u.validator n with
    | error e => simp only [found] at lent; cases lent
    | ok d =>
      simp only [found] at lent
      cases lent
      exact ⟨fun _ => carriesSame u, rfl, (List.getElem?_eq_some_iff.mp (validatorPlaced found)).1⟩

theorem carriesGiven {store : Option String} (given : Given w store i u) :
    w.Carries u (if store.isSome then w.shared else some w.home) named := by
  cases given with
  | shared => exact carriesSharing w
  | named found => exact carriesSame w

theorem sharedByBootstrap {draft : Option Draft} {settings : Settings} (store validator : Option String)
    (chosen : w.settings draft = .ok settings) :
    w.sharedAfter (.bootstrap name draft store validator) =
      if store.isSome then w.shared else some w.home := by
  cases store <;> simp [sharedAfter, handsOut?, chosen]

theorem carriesBootstrap (name : String) (draft : Option Draft) (store validator : Option String) :
    w.Carries (w.bootstrap name draft store validator).2
      (w.sharedAfter (.bootstrap name draft store validator)) (some name) := by
  have course := bootstraps w name draft store validator
  generalize w.bootstrap name draft store validator = done at course ⊢
  cases course with
  | misfit failed =>
    have same : w.sharedAfter (.bootstrap name draft store validator) = w.shared := by
      cases store <;> simp [sharedAfter, handsOut?, failed]
    rw [same]
    exact carriesSame w
  | storeless e chosen asked =>
    rw [sharedByBootstrap store validator chosen, asked]
    exact carriesSame w
  | unvalidated e chosen given =>
    rw [sharedByBootstrap store validator chosen]
    exact carriesGiven given
  | bound chosen given supplied =>
    rw [sharedByBootstrap store validator chosen]
    have lent : w.Carries _ _ (some name) := carriesGiven given
    have supply := supplied.carries (some name)
    have kept := supply.shared.trans lent.shared
    exact carriesThen lent (carriesThen supply (kept ▸ carriesBind ..))

theorem performCarries (w : World) (a : Act) : w.Carries (w.perform a).2 (w.sharedAfter a) a.binds? := by
  cases a with
  | makeStore name kind =>
    exact carriesMore (by simp [perform, addStore, nameStore]) (Nat.le_refl _) rfl rfl
  | makeValidator name kind =>
    refine carriesChanging fun v made => ?_
    cases kind with
    | listed => cases made; exact carriesMore (Nat.le_refl _) (by simp) rfl rfl
    | canonical d =>
      simp only [bind, Except.bind] at made
      split at made <;> cases made
      exact carriesMore (Nat.le_refl _) (by simp [addValidator]) rfl rfl
  | refuse name raw =>
    refine carriesChanging fun v made => ?_
    simp only [bind, Except.bind] at made
    split at made <;> try contradiction
    split at made <;> cases made
    exact carriesMore (Nat.le_refl _) (by simp [putValidator]) rfl rfl
  | validate name raw =>
    simp only [perform, validateRaw]
    split
    · exact carriesSame w
    · exact carriesMore (Nat.le_refl _) (by simp [putValidator]) rfl rfl
  | makeService name ns store validator =>
    simp only [perform]
    split
    · exact carriesBind ..
    all_goals exact carriesSame w
  | bootstrap name draft store validator => exact carriesBootstrap name draft store validator
  | sharedStore name =>
    exact carriesThen (carriesSharing w)
      (carriesMore (Nat.le_refl _) (Nat.le_refl _) (sharingShared w) rfl)
  | shareStore store =>
    cases store with
    | none => exact ⟨Nat.le_refl _, Nat.le_refl _, rfl, fun _ _ => rfl⟩
    | some name =>
      simp only [perform, sharedAfter]
      cases found : w.store name with
      | error e => exact carriesSame w
      | ok named => exact ⟨Nat.le_refl _, Nat.le_refl _, rfl, fun _ _ => rfl⟩
  | establish name r =>
    simp only [perform]
    cases r.request with
    | error e => exact carriesSame w
    | ok r => exact carriesServe name _ _
  | update name sender r =>
    simp only [perform]
    cases readParty sender with
    | error e => exact carriesSame w
    | ok p =>
      cases r.request with
      | error e => exact carriesSame w
      | ok r => exact carriesServe name _ _
  | query name => exact carriesServe name _ _
  | isAdmin name who => exact carriesServeParty name who _ _
  | isProposed name who => exact carriesServeParty name who _ _
  | assertAdmin name who => exact carriesServeParty name who _ _
  | assertProposed name who => exact carriesServeParty name who _ _
  | get name ns =>
    simp only [perform, getRecord]
    split
    · exact carriesSame w
    · exact carriesMore (by simp [note, putStore]) (Nat.le_refl _) rfl rfl
  | set name ns r => exact carriesChange name _
  | seed name ns r => exact carriesChange name _
  | plant name ns raw => exact carriesChange name _
  | setFailures name get set => exact carriesChange name _
  | clear name => exact carriesChange name _
  | configure draft =>
    simp only [perform]
    split
    · exact carriesSame w
    · exact carriesMore (Nat.le_refl _) (Nat.le_refl _) rfl rfl
  | log level event fields =>
    refine carriesChanging fun v made => ?_
    cases taken : Audit.Logger.call ⟨w.journal, []⟩ w.around level event fields with
    | error e => rw [taken] at made; cases made
    | ok lines => rw [taken] at made; cases made; exact carriesMore (Nat.le_refl _) (Nat.le_refl _) rfl rfl
  | logRequest service ns component operation r sender event =>
    refine carriesChanging fun v made => ?_
    simp only [bind, Except.bind] at made
    split at made <;> try contradiction
    split at made <;> try contradiction
    split at made <;> cases made
    exact carriesMore (Nat.le_refl _) (Nat.le_refl _) rfl rfl
  | _ => exact carriesMore (Nat.le_refl _) (Nat.le_refl _) rfl rfl

end

def Placed (w : World) : Prop := ∀ i, w.shared = some i → i < w.stores.length

theorem startPlaced (environment : Settings.Environment) (time fresh : String) :
    (start environment time fresh).Placed := fun _ held => nomatch held

theorem homeShared (held : w.shared = some i) : w.home = i := by rw [home, shareOnDemand, held]

theorem homeUnshared (unset : w.shared = none) :
    w.home = w.stores.length ∧ w.shareOnDemand.2.stores = w.stores ++ [.bytes .empty] := by
  rw [home, shareOnDemand, unset]
  exact ⟨rfl, rfl⟩

theorem homePlaced (placed : w.Placed) : w.home < w.shareOnDemand.2.stores.length := by
  cases held : w.shared with
  | some i =>
    have sharing : w.Carries w.shareOnDemand.2 _ none := carriesSharing w
    rw [homeShared held]
    exact Nat.lt_of_lt_of_le (placed i held) sharing.stores
  | none =>
    obtain ⟨home, stores⟩ := homeUnshared held
    rw [home, stores, List.length_append]
    exact Nat.lt_succ_self _

theorem handedHome (handed : w.handsOut? a = some i) : i = w.home := by
  cases a with
  | sharedStore name => exact (Option.some.inj handed).symm
  | bootstrap name draft store validator =>
    cases store with
    | none =>
      simp only [handsOut?] at handed
      split at handed <;> cases handed
      rfl
    | some n => cases handed
  | _ => cases handed

theorem handedStores (handed : w.handsOut? a = some i) :
    (w.perform a).2.stores = w.shareOnDemand.2.stores := by
  cases a with
  | sharedStore name => rfl
  | bootstrap name draft store validator =>
    cases store with
    | some n => cases handed
    | none =>
      simp only [handsOut?] at handed
      split at handed <;> cases handed
      rename_i settings chosen
      have course := bootstraps w name draft none validator
      simp only [perform]
      generalize w.bootstrap name draft none validator = done at course ⊢
      cases course with
      | misfit failed => rw [chosen] at failed; cases failed
      | storeless e chosen' asked => cases asked
      | unvalidated e chosen' given => cases given; rfl
      | bound chosen' given supplied =>
        cases given
        exact (bindServiceStores ..).trans supplied.stores
  | _ => cases handed

theorem sharedHanded (handed : w.handsOut? a = some i) : w.sharedAfter a = some i := by
  cases a with
  | shareStore store => cases handed
  | _ => simp only [sharedAfter, handed, Option.some_or]

theorem sharedUnhanded (kept : a.replaces = false) (unhanded : w.handsOut? a = none) :
    w.sharedAfter a = w.shared := by
  cases a with
  | shareStore store => cases kept
  | _ => simp only [sharedAfter, unhanded, Option.none_or]

theorem performPlaced (placed : w.Placed) (a : Act) : (w.perform a).2.Placed := by
  intro i shared
  have carried := performCarries w a
  rw [carried.shared] at shared
  cases handed : w.handsOut? a with
  | some j =>
    obtain rfl : j = i := Option.some.inj ((sharedHanded handed).symm.trans shared)
    rw [handedStores handed, handedHome handed]
    exact homePlaced placed
  | none =>
    refine Nat.lt_of_lt_of_le ?_ carried.stores
    cases replaced : a.replaces with
    | false => exact placed i ((sharedUnhanded replaced handed).symm.trans shared)
    | true =>
      cases a with
      | shareStore store =>
        cases store with
        | none => cases shared
        | some name =>
          simp only [sharedAfter] at shared
          split at shared
          · rename_i found
            cases shared
            exact (List.getElem?_eq_some_iff.mp (storePlaced found)).1
          · exact placed i shared
      | _ => cases replaced

theorem afterInduct {P : World → Prop} {acts : List Act} (first : P w)
    (step : ∀ (v : World), ∀ a ∈ acts, P v → P (v.after [a])) : P (w.after acts) := by
  induction acts generalizing w with
  | nil => exact first
  | cons a rest ih =>
    rw [afterCons]
    exact ih (step w a List.mem_cons_self first) fun v b member => step v b (List.mem_cons_of_mem _ member)

theorem afterPlaced (placed : w.Placed) (acts : List Act) : (w.after acts).Placed :=
  afterInduct placed fun _ a _ placed => performPlaced placed a

theorem afterShared (w : World) (a : Act) : (w.after [a]).shared = w.sharedAfter a :=
  (performCarries w a).shared

theorem handedShared (handed : w.handsOut? a = some i) : (w.after [a]).shared = some i :=
  (afterShared w a).trans (sharedHanded handed)

theorem installedShared {s : Store} (found : w.store name = .ok (i, s)) :
    (w.after [.shareStore (some name)]).shared = some i := by
  rw [afterShared]
  simp only [sharedAfter, found]

theorem sharedIdle {acts : List Act} (kept : ∀ a ∈ acts, a.replaces = false)
    (idle : w.handouts acts = []) :
    (w.after acts).shared = w.shared := by
  induction acts generalizing w with
  | nil => rfl
  | cons a rest ih =>
    obtain ⟨unhanded, later⟩ := List.append_eq_nil_iff.mp idle
    have first := sharedUnhanded (kept a List.mem_cons_self) (Option.toList_eq_nil_iff.mp unhanded)
    rw [afterCons, ih (fun b inside => kept b (List.mem_cons_of_mem _ inside)) later, afterShared, first]

theorem lendsOnly (shared : w.shared = some i) : w.LendsOnly i := by
  intro acts kept j
  induction acts generalizing w with
  | nil => intro none; cases none
  | cons a rest ih =>
    intro member
    -- a place that is handed out stays the shared one, so the induction goes on from the next world
    have next : (w.after [a]).shared = some i := by
      rw [afterShared]
      cases handed : w.handsOut? a with
      | none => exact (sharedUnhanded (kept a List.mem_cons_self) handed).trans shared
      | some k => rw [sharedHanded handed, handedHome handed, homeShared shared]
    rcases List.mem_append.mp member with now | later
    · have handed : w.handsOut? a = some j := Option.mem_toList.mp now
      rw [handedHome handed, homeShared shared]
    · exact ih next (fun b inside => kept b (List.mem_cons_of_mem _ inside)) later

theorem lendsFresh (unset : w.shared = none) : w.LendsFresh := by
  intro acts a i kept idle handed
  obtain ⟨home, stores⟩ := homeUnshared ((sharedIdle kept idle).trans unset)
  have made : (w.after (acts ++ [a])).stores = (w.after acts).stores ++ [.bytes .empty] := by
    rw [afterAppend]
    exact (handedStores handed).trans stores
  rw [handedHome handed, home, made]
  exact ⟨List.getElem?_eq_none (Nat.le_refl _), List.getElem?_concat_length⟩

end World

end Handover.Session

import Handover.Proofs.Confined
import Handover.Proofs.Ledger

/-!
Operations on one namespace of one place. Such an operation sees the scene of a world, which is what
operations leave alone, and the cell at its address; it changes that cell and no other.
-/
namespace Handover.Session

structure Address where
  place : Nat
  ns : String
  deriving DecidableEq

structure Scene where
  storeNames : List (String × Nat)
  services : List (String × Binding)
  journal : Audit.Journal
  around : Audit.Surroundings
  modes : List (Option (Bool × Bool))
  rules : List Validator

namespace World

variable {w u v : World} {name ns : String}

def scene (w : World) : Scene :=
  ⟨w.storeNames, w.services, w.journal, w.around, w.stores.map Store.mode,
    w.validators.map Validator.rule⟩

theorem mapSet {α β : Type} {f : α → β} {l : List α} {i : Nat} {a b : α} (found : l[i]? = some a)
    (same : f b = f a) : (l.set i b).map f = l.map f := by
  refine List.ext_getElem? fun j => ?_
  rw [List.getElem?_map, List.getElem?_map]
  by_cases here : i = j
  · subst here
    obtain ⟨inside, -⟩ := List.getElem?_eq_some_iff.mp found
    simp [List.getElem?_set_self inside, found, same]
  · rw [List.getElem?_set_ne here]

theorem scenePut {i : Nat} {s t : Store} (found : w.stores[i]? = some s) (mode : t.mode = s.mode) :
    (w.putStore i t).scene = w.scene := by
  simp only [scene, putStore, mapSet found mode]

theorem hostAlike (same : w.scene = v.scene) : w.host = v.host := by
  have journal : w.journal = v.journal := congrArg Scene.journal same
  have around : w.around = v.around := congrArg Scene.around same
  rw [host, host, journal, around]

theorem mapAlike {α β : Type} {f : α → β} {l m : List α} (same : l.map f = m.map f) {i : Nat} {a : α}
    (found : l[i]? = some a) : ∃ b, m[i]? = some b ∧ f a = f b := by
  have mapped := congrArg (fun l => l[i]?) same
  simp only [List.getElem?_map, found, Option.map_some] at mapped
  obtain ⟨b, kept, equal⟩ := Option.map_eq_some_iff.mp mapped.symm
  exact ⟨b, kept, equal.symm⟩

theorem placeFails {α : Type} {names : List (String × Nat)} {items : List α} {e : Failure}
    (failed : place name names items = .error e) : e = unknown name := by
  unfold place at failed
  cases found : find name names with
  | error e' =>
    rw [found] at failed
    cases failed
    exact findFails found
  | ok i =>
    simp only [found, bind, Except.bind] at failed
    split at failed <;> cases failed
    rfl

theorem storeAlike (same : w.scene = v.scene) {i : Nat} {s : Store} (found : w.store name = .ok (i, s)) :
    ∃ t, v.store name = .ok (i, t) ∧ s.mode = t.mode := by
  have names : w.storeNames = v.storeNames := congrArg Scene.storeNames same
  unfold store place at found ⊢
  rw [← names]
  cases named : find name w.storeNames with
  | error e => rw [named] at found; cases found
  | ok j =>
    simp only [named, bind, Except.bind] at found ⊢
    split at found
    · rename_i a stored
      cases found
      obtain ⟨t, kept, mode⟩ := mapAlike (congrArg Scene.modes same) stored
      exact ⟨t, by rw [kept], mode⟩
    · cases found

theorem storeMissing (same : w.scene = v.scene) {e : Failure} (missing : w.store name = .error e) :
    v.store name = .error e := by
  cases found : v.store name with
  | error e' => rw [placeFails missing, placeFails found]
  | ok named =>
    obtain ⟨t, kept, -⟩ := storeAlike same.symm found
    rw [missing] at kept
    cases kept

theorem boundAlike (same : w.scene = v.scene) {b : Binding} {s : Store} {d : Validator}
    (bound : w.bound? name = some (b, s, d)) :
    ∃ t d', v.bound? name = some (b, t, d') ∧ s.mode = t.mode ∧ d.rule = d'.rule := by
  have services : w.services = v.services := congrArg Scene.services same
  unfold bound? at bound ⊢
  rw [← services]
  cases found : find name w.services with
  | error e => simp only [found] at bound; cases bound
  | ok b' =>
    simp only [found] at bound ⊢
    split at bound
    · rename_i stored held
      cases bound
      obtain ⟨t, kept, mode⟩ := mapAlike (congrArg Scene.modes same) stored
      obtain ⟨d', held', rule⟩ := mapAlike (congrArg Scene.rules same) held
      exact ⟨t, d', by rw [kept, held'], mode, rule⟩
    · cases bound

theorem unboundAlike (same : w.scene = v.scene) (unbound : w.bound? name = none) :
    v.bound? name = none := by
  cases bound : v.bound? name with
  | none => rfl
  | some found =>
    obtain ⟨b, s, d⟩ := found
    obtain ⟨t, d', kept, -⟩ := boundAlike same.symm bound
    rw [unbound] at kept
    cases kept

def storeAddress? (w : World) (name ns : String) : Option Address :=
  match w.store name with
  | .ok (i, _) => some ⟨i, ns⟩
  | .error _ => none

def serviceAddress? (w : World) (name : String) : Option Address :=
  match w.bound? name with
  | some (b, _, _) => some ⟨b.store, b.service.ns⟩
  | none => none

def address? (w : World) : Act → Option Address
  | .establish name _ | .update name _ _ | .query name | .isAdmin name _ | .isProposed name _
  | .assertAdmin name _ | .assertProposed name _ => w.serviceAddress? name
  | .get name ns | .set name ns _ | .seed name ns _ | .raw name ns | .plant name ns _ =>
    w.storeAddress? name ns
  | _ => none

theorem storeAddressAlike (same : w.scene = v.scene) (name ns : String) :
    w.storeAddress? name ns = v.storeAddress? name ns := by
  unfold storeAddress?
  cases found : w.store name with
  | error e => rw [storeMissing same found]
  | ok named =>
    obtain ⟨t, kept, -⟩ := storeAlike same found
    rw [kept]

theorem serviceAddressAlike (same : w.scene = v.scene) (name : String) :
    w.serviceAddress? name = v.serviceAddress? name := by
  unfold serviceAddress?
  cases bound : w.bound? name with
  | none => rw [unboundAlike same bound]
  | some found =>
    obtain ⟨t, d, kept, -⟩ := boundAlike same bound
    rw [kept]

theorem addressAlike (same : w.scene = v.scene) (a : Act) : w.address? a = v.address? a := by
  cases a <;> first
    | rfl
    | exact serviceAddressAlike same _
    | exact storeAddressAlike same _ _

structure Spares (home : Option Address) (w v : World) : Prop where
  scene : v.scene = w.scene
  others : ∀ a : Address, home ≠ some a → v.cell? a.place a.ns = w.cell? a.place a.ns

/-- Two worlds that operations at an address cannot tell apart. -/
structure Alike (home : Address) (w v : World) : Prop where
  scene : w.scene = v.scene
  cell : w.cell? home.place home.ns = v.cell? home.place home.ns

structure Local (home : Option Address) (f : World → Except Failure Answer × World) (w : World) :
    Prop where
  spares : w.Spares home (f w).2
  agrees : ∀ v a, home = some a → Alike a w v →
    (f w).1 = (f v).1 ∧ (f w).2.cell? a.place a.ns = (f v).2.cell? a.place a.ns

theorem alikeCell {i : Nat} {s t : Store} (stored : w.stores[i]? = some s)
    (stored' : v.stores[i]? = some t) (alike : Alike ⟨i, ns⟩ w v) : s.cell? ns = t.cell? ns := by
  have cell := alike.cell
  simp only [cell?, stored, stored', Option.bind_some] at cell
  exact cell

theorem alikeStore {i : Nat} {s : Store} (found : w.store name = .ok (i, s))
    (alike : Alike ⟨i, ns⟩ w v) :
    ∃ t, v.store name = .ok (i, t) ∧ s.mode = t.mode ∧ s.cell? ns = t.cell? ns := by
  obtain ⟨t, found', mode⟩ := storeAlike alike.scene found
  exact ⟨t, found', mode, alikeCell (storePlaced found) (storePlaced found') alike⟩

theorem sparesNothing (w : World) (home : Option Address) : w.Spares home w := ⟨rfl, fun _ _ => rfl⟩

theorem localFailing (home : Option Address) (e : Failure) (w : World) :
    w.Local home fun w => (.error e, w) where
  spares := sparesNothing w home
  agrees _ _ _ alike := ⟨rfl, alike.cell⟩

theorem cellOwn {i : Nat} {s : Store} (found : w.stores[i]? = some s) (t : Store) :
    (w.putStore i t).cell? i ns = t.cell? ns := by
  rw [cellPut found, if_pos rfl]

theorem sparesPut {i : Nat} {s t : Store} {c : Option Cell} (found : w.stores[i]? = some s)
    (assigned : s.Assigned ns c t) : w.Spares (some ⟨i, ns⟩) (w.putStore i t) where
  scene := scenePut found assigned.mode
  others a other := by
    rw [cellPut found]
    split
    · rename_i here
      have apart : a.ns ≠ ns := by
        rintro rfl
        exact other (by rw [← here])
      rw [assigned.others a.ns apart, cell?, here, found]
      rfl
    · rfl

theorem serveSpares {α : Type} {x : Service → Host → Action α} {b : Binding} {s : Store} {d : Validator}
    (confined : ∀ svc h, (x svc h).Confined svc.ns) (bound : w.bound? name = some (b, s, d)) :
    w.Spares (some ⟨b.store, b.service.ns⟩) (w.serve name x).2 := by
  obtain ⟨stored, held, served⟩ := serveBound bound x
  have spared := (confined b.service w.host).spares ⟨s, d, []⟩
  have put := sparesPut stored ⟨spared.mode, rfl, spared.others⟩
  rw [served]
  refine ⟨?_, put.others⟩
  refine Eq.trans ?_ put.scene
  simp only [scene, putValidator, note, putStore, mapSet held spared.rule]

theorem serveLocal {α : Type} {x : Service → Host → Action α} (name : String) (f : α → Answer)
    (confined : ∀ svc h, (x svc h).Confined svc.ns) (w : World) :
    w.Local (w.serviceAddress? name) fun w => w.serving name x f := by
  unfold serviceAddress?
  cases bound : w.bound? name with
  | none =>
    constructor
    · change w.Spares none (w.serve name x).2
      rw [serveUnbound bound]
      exact sparesNothing w none
    · intro v a same
      cases same
  | some found =>
    obtain ⟨b, s, d⟩ := found
    constructor
    · exact serveSpares confined bound
    · rintro v a ⟨⟩ alike
      obtain ⟨t, d', bound', mode, rule⟩ := boundAlike alike.scene bound
      obtain ⟨stored, -, served⟩ := serveBound bound x
      obtain ⟨stored', -, served'⟩ := serveBound bound' x
      -- the two sites differ at most in what the service cannot see: other cells and the validator's memory
      have cell := alikeCell stored stored' alike
      have same := (confined b.service w.host).answers ⟨s, d, []⟩ ⟨t, d', []⟩ ⟨mode, cell, rule⟩
      rw [← hostAlike alike.scene] at served'
      simp only [serving, served, served']
      refine ⟨by rw [same.1], ?_⟩
      exact (cellOwn stored _).trans (same.2.cell.trans (cellOwn stored' _).symm)

theorem partyLocal {α : Type} {x : Service → Host → Option Party → Action α} (name : String)
    (who : Json) (f : α → Answer) (confined : ∀ svc h p, (x svc h p).Confined svc.ns) (w : World) :
    w.Local (w.serviceAddress? name) fun w => w.servingParty name who x f := by
  unfold servingParty
  cases readParty who with
  | error e => exact localFailing _ e w
  | ok p => exact serveLocal name f (fun svc h => confined svc h p) w

theorem getLocal (name ns : String) (w : World) :
    w.Local (w.storeAddress? name ns) fun w => w.getRecord name ns := by
  unfold storeAddress?
  cases found : w.store name with
  | error e =>
    constructor
    · simp only [getRecord, found]
      exact sparesNothing w none
    · intro v a same
      cases same
  | ok named =>
    obtain ⟨i, s⟩ := named
    have stored := storePlaced found
    have spared := (loadConfined w.host ns).spares ⟨s, .fresh, []⟩
    constructor
    · simp only [getRecord, found]
      have put := sparesPut stored ⟨spared.mode, rfl, spared.others⟩
      exact ⟨put.scene, put.others⟩
    · rintro v a ⟨⟩ alike
      obtain ⟨t, found', mode, cell⟩ := alikeStore found alike
      have stored' := storePlaced found'
      have same := (loadConfined w.host ns).answers ⟨s, .fresh, []⟩ ⟨t, .fresh, []⟩
        ⟨mode, cell, rfl⟩
      simp only [getRecord, found, found', ← hostAlike alike.scene]
      refine ⟨by rw [same.1], ?_⟩
      exact (cellOwn stored _).trans (same.2.cell.trans (cellOwn stored' _).symm)

theorem rawLocal (name ns : String) (w : World) :
    w.Local (w.storeAddress? name ns) fun w =>
      w.answering ((w.store name).map fun s => .bytes (s.2.bytes? ns)) := by
  constructor
  · exact sparesNothing w _
  · intro v a home alike
    unfold storeAddress? at home
    cases found : w.store name with
    | error e => rw [found] at home; cases home
    | ok named =>
      obtain ⟨i, s⟩ := named
      rw [found] at home
      cases home
      obtain ⟨t, found', mode, cell⟩ := alikeStore found alike
      have bytes := Store.bytesAlike mode cell
      simp only [answering, found', Except.map, bytes]
      exact ⟨trivial, alike.cell⟩

theorem changeLocal {f : Store → Except Failure Store} (name ns : String)
    (does : ∀ s t : Store, s.mode = t.mode → s.cell? ns = t.cell? ns →
      (∃ e, f s = .error e ∧ f t = .error e) ∨
      ∃ c s' t', f s = .ok s' ∧ f t = .ok t' ∧ s.Assigned ns c s' ∧ t.Assigned ns c t') (w : World) :
    w.Local (w.storeAddress? name ns) fun w => w.changeStore name f := by
  unfold storeAddress?
  cases found : w.store name with
  | error e =>
    constructor
    · rw [changeMissing found]
      exact sparesNothing w none
    · intro v a same
      cases same
  | ok named =>
    obtain ⟨i, s⟩ := named
    have stored := storePlaced found
    constructor
    · rw [changeStored found]
      rcases does s s rfl rfl with ⟨e, failed, -⟩ | ⟨c, s', t', kept, -, assigned, -⟩
      · rw [failed]
        exact sparesNothing w _
      · rw [kept]
        exact sparesPut stored assigned
    · rintro v a ⟨⟩ alike
      obtain ⟨t, found', mode, cell⟩ := alikeStore found alike
      have stored' := storePlaced found'
      rw [changeStored found, changeStored found']
      rcases does s t mode cell with
        ⟨e, failed, failed'⟩ | ⟨c, s', t', kept, kept', assigned, assigned'⟩
      · rw [failed, failed']
        exact ⟨rfl, alike.cell⟩
      · rw [kept, kept']
        refine ⟨rfl, ?_⟩
        have own : (w.putStore i s').cell? i ns = c := (cellOwn stored s').trans assigned.own
        have own' : (v.putStore i t').cell? i ns = c := (cellOwn stored' t').trans assigned'.own
        exact own.trans own'.symm

end World

def Act.isOperation : Act → Bool
  | .establish .. | .update .. | .query .. | .isAdmin .. | .isProposed .. | .assertAdmin ..
  | .assertProposed .. | .get .. | .set .. | .seed .. | .raw .. | .plant .. => true
  | _ => false

namespace World

theorem setLocal (name ns : String) (r : RawRecord) (w : World) :
    w.Local (w.storeAddress? name ns) fun w => w.perform (.set name ns r) := by
  simp only [perform]
  refine changeLocal name ns (fun s t mode _ => ?_) w
  cases r.record with
  | error e => exact Or.inl ⟨e, rfl, rfl⟩
  | ok r =>
    rcases Store.setAlike ns r mode with ⟨e, failed, failed'⟩ | ⟨c, s', t', kept⟩
    · exact Or.inl ⟨e, failed, failed'⟩
    · exact Or.inr ⟨some c, s', t', kept⟩

theorem seedLocal (name ns : String) (r : RawRecord) (w : World) :
    w.Local (w.storeAddress? name ns) fun w => w.perform (.seed name ns r) := by
  simp only [perform]
  refine changeLocal name ns (fun s t mode cell => ?_) w
  cases r.record with
  | error e => exact Or.inl ⟨e, rfl, rfl⟩
  | ok r =>
    cases s with
    | bytes b =>
      cases t with
      | plain q => cases mode
      | bytes b' =>
        exact Or.inr ⟨_, _, _, rfl, rfl, Store.assignedSame ns _, cell ▸ Store.assignedSame ns _⟩
    | plain p =>
      cases t with
      | bytes b => cases mode
      | plain q =>
        exact Or.inr ⟨_, _, _, rfl, rfl, Store.seedAssigned p ns r, Store.seedAssigned q ns r⟩

theorem plantLocal (name ns : String) (raw : ByteArray) (w : World) :
    w.Local (w.storeAddress? name ns) fun w => w.perform (.plant name ns raw) := by
  simp only [perform]
  refine changeLocal name ns (fun s t mode cell => Or.inr ?_) w
  cases s with
  | plain p =>
    cases t with
    | bytes b => cases mode
    | plain q => exact ⟨_, _, _, rfl, rfl, Store.assignedSame ns _, cell ▸ Store.assignedSame ns _⟩
  | bytes b =>
    cases t with
    | plain q => cases mode
    | bytes b' => exact ⟨_, _, _, rfl, rfl, Store.plantAssigned b ns raw, Store.plantAssigned b' ns raw⟩

theorem establishLocal (name : String) (r : Submission) (w : World) :
    w.Local (w.serviceAddress? name) fun w => w.perform (.establish name r) := by
  simp only [perform]
  cases r.request with
  | error e => exact localFailing _ e w
  | ok r => exact serveLocal name _ (fun svc h => svc.establishConfined h r) w

theorem updateLocal (name : String) (sender : Json) (r : Submission) (w : World) :
    w.Local (w.serviceAddress? name) fun w => w.perform (.update name sender r) := by
  simp only [perform]
  cases readParty sender with
  | error e => exact localFailing _ e w
  | ok p =>
    cases r.request with
    | error e => exact localFailing _ e w
    | ok r => exact serveLocal name _ (fun svc h => svc.updateConfined h p r) w

theorem performLocal {a : Act} (operation : a.isOperation = true) (w : World) :
    w.Local (w.address? a) fun w => w.perform a := by
  cases a with
  | establish name r => exact establishLocal name r w
  | update name sender r => exact updateLocal name sender r w
  | query name => exact serveLocal name _ Service.surveyConfined w
  | isAdmin name who => exact partyLocal name who _ Service.isAdminConfined w
  | isProposed name who => exact partyLocal name who _ Service.isProposedConfined w
  | assertAdmin name who => exact partyLocal name who _ Service.assertAdminConfined w
  | assertProposed name who => exact partyLocal name who _ Service.assertProposedConfined w
  | get name ns => exact getLocal name ns w
  | set name ns r => exact setLocal name ns r w
  | seed name ns r => exact seedLocal name ns r w
  | raw name ns => exact rawLocal name ns w
  | plant name ns raw => exact plantLocal name ns raw w
  | _ => cases operation

end World

end Handover.Session

import Handover.Session.Act

/-!
The world of a session. Stores and validators have places of their own, so that several names can
mean the same one; a service remembers the places it was made with. One place holds the store that
services share unless they are given another.
-/
namespace Handover.Session

structure Binding where
  service : Service
  store : Nat
  validator : Nat

structure World where
  stores : List Store
  storeNames : List (String × Nat)
  validators : List Validator
  validatorNames : List (String × Nat)
  services : List (String × Binding)
  shared : Option Nat
  environment : Settings.Environment
  journal : Audit.Journal
  around : Audit.Surroundings
  fresh : String
  lines : List Audit.Line

namespace World

def start (environment : Settings.Environment) (time fresh : String) : World where
  stores := []
  storeNames := []
  validators := []
  validatorNames := []
  services := []
  shared := none
  environment := environment
  journal := .captured
  around := { active := "", fields := [], time }
  fresh := fresh
  lines := []

def host (w : World) : Host := ⟨w.journal, w.around⟩

def unknown (name : String) : Failure := .raised ("nothing is named " ++ Text.quoted name)

def find {α : Type} (name : String) (table : List (String × α)) : Except Failure α :=
  match Table.get? name table with
  | some a => .ok a
  | none => .error (unknown name)

def place {α : Type} (name : String) (names : List (String × Nat)) (items : List α) :
    Except Failure (Nat × α) := do
  let i ← find name names
  match items[i]? with
  | some a => .ok (i, a)
  | none => .error (unknown name)

def store (w : World) (name : String) : Except Failure (Nat × Store) :=
  place name w.storeNames w.stores

def validator (w : World) (name : String) : Except Failure (Nat × Validator) :=
  place name w.validatorNames w.validators

def putStore (w : World) (i : Nat) (s : Store) : World := { w with stores := w.stores.set i s }

def putValidator (w : World) (i : Nat) (v : Validator) : World :=
  { w with validators := w.validators.set i v }

def note (w : World) (lines : List Audit.Line) : World := { w with lines := w.lines ++ lines }

def addStore (w : World) (s : Store) : Nat × World :=
  (w.stores.length, { w with stores := w.stores ++ [s] })

def addValidator (w : World) (v : Validator) : Nat × World :=
  (w.validators.length, { w with validators := w.validators ++ [v] })

def nameStore (w : World) (name : String) (i : Nat) : World :=
  { w with storeNames := Table.put name i w.storeNames }

def shareOnDemand (w : World) : Nat × World :=
  match w.shared with
  | some i => (i, w)
  | none =>
    let (i, w) := w.addStore (.bytes .empty)
    (i, { w with shared := some i })

def namesOf (w : World) (i : Nat) : List String :=
  ((Table.sorted w.storeNames).filter fun n => n.2 == i).map Prod.fst

def namedStores (w : World) : List (String × Store) :=
  w.storeNames.filterMap fun n => (w.stores[n.2]?).map fun s => (n.1, s)

def serve {α : Type} (w : World) (name : String) (x : Service → Host → Action α) :
    Except Failure α × World :=
  match find name w.services with
  | .error e => (.error e, w)
  | .ok b =>
    match w.stores[b.store]?, w.validators[b.validator]? with
    | some store, some validator =>
      let (result, site) := x b.service w.host ⟨store, validator, []⟩
      (result, ((w.putStore b.store site.store).putValidator b.validator site.validator).note
        site.log)
    | _, _ => (.error (unknown name), w)

def report (w : World) (answer : Except Failure Answer) : Report × World :=
  let isKept : Audit.Line → Bool := fun l => match l with | .kept _ => true | .text _ => false
  (⟨answer, w.lines.filter isKept ++ w.lines.filter (!isKept ·), w.namedStores⟩,
    { w with lines := [] })

end World

end Handover.Session

import Handover.Failure
import Handover.Role.Record
import Handover.Wire.RecordForm

/-!
Stores of records by namespace. One kind keeps the written form of a record as bytes; the other keeps
the record itself, counts the calls it gets and can be told to fail. Rolling back concerns a single
namespace.
-/
namespace Handover

-- The libraries know more than one way to compare bytes; stores are compared by this one.
instance sameBytes : DecidableEq ByteArray := ByteArray.instDecidableEq

structure ByteStore where
  cells : List (String × ByteArray)
  deriving DecidableEq

structure PlainStore where
  cells : List (String × Record)
  failsGet : Bool
  failsSet : Bool
  gets : Nat
  sets : Nat
  opened : Nat
  deriving DecidableEq

namespace ByteStore

def empty : ByteStore := ⟨[]⟩

def cell? (s : ByteStore) (ns : String) : Option ByteArray := Table.get? ns s.cells

def plant (s : ByteStore) (ns : String) (b : ByteArray) : ByteStore := ⟨Table.put ns b s.cells⟩

def decode (ns : String) (b : ByteArray) : Except Fault Record :=
  match Wire.RecordForm.ofBytes b with
  | .error rows => .error (.storage ns (.corrupt rows.length))
  | .ok form => form.toRecord.mapError .record

def get (s : ByteStore) (ns : String) : Except Fault (Option Record) :=
  match s.cell? ns with
  | none => .ok none
  | some b => (decode ns b).map some

def set (s : ByteStore) (ns : String) (r : Record) : Except Failure ByteStore :=
  match Wire.RecordForm.ofRecord r with
  | .error rows => .error (.issues rows)
  | .ok form => .ok (s.plant ns form.toBytes)

end ByteStore

namespace PlainStore

def empty : PlainStore := ⟨[], false, false, 0, 0, 0⟩

def cell? (s : PlainStore) (ns : String) : Option Record := Table.get? ns s.cells

def seed (s : PlainStore) (ns : String) (r : Record) : PlainStore :=
  { s with cells := Table.put ns r s.cells }

def get (s : PlainStore) (ns : String) : Except Fault (Option Record) × PlainStore :=
  (if s.failsGet then .error (.storage ns .unreadable) else .ok (s.cell? ns),
    { s with gets := s.gets + 1 })

def set (s : PlainStore) (ns : String) (r : Record) : Except Failure PlainStore :=
  if s.failsSet then .error (.fault (.storage ns .unwritable))
  else .ok { s.seed ns r with sets := s.sets + 1 }

end PlainStore

inductive Store
  | bytes (s : ByteStore)
  | plain (s : PlainStore)
  deriving DecidableEq

namespace Store

def get (s : Store) (ns : String) : Except Fault (Option Record) × Store :=
  match s with
  | .bytes b => (b.get ns, s)
  | .plain p => ((p.get ns).1, .plain (p.get ns).2)

def set (s : Store) (ns : String) (r : Record) : Except Failure Store :=
  match s with
  | .bytes b => (b.set ns r).map .bytes
  | .plain p => (p.set ns r).map .plain

def enter (s : Store) : Store :=
  match s with
  | .bytes _ => s
  | .plain p => .plain { p with opened := p.opened + 1 }

def rollback (now before : Store) (ns : String) : Store :=
  match now, before with
  | .bytes n, .bytes b => .bytes ⟨Table.assign ns (b.cell? ns) n.cells⟩
  | .plain n, .plain b => .plain { n with cells := Table.assign ns (b.cell? ns) n.cells }
  | _, _ => now

def bytes? (s : Store) (ns : String) : Option ByteArray :=
  match s with
  | .bytes b => b.cell? ns
  | .plain _ => none

def plant (s : Store) (ns : String) (b : ByteArray) : Store :=
  match s with
  | .bytes n => .bytes (n.plant ns b)
  | .plain _ => s

def seed (s : Store) (ns : String) (r : Record) : Store :=
  match s with
  | .bytes _ => s
  | .plain p => .plain (p.seed ns r)

def namespaces : Store → List String
  | .bytes b => (Table.sorted b.cells).map Prod.fst
  | .plain p => (Table.sorted p.cells).map Prod.fst

def setFailures (s : Store) (get set : Bool) : Store :=
  match s with
  | .bytes _ => s
  | .plain p => .plain { p with failsGet := get, failsSet := set }

def clear : Store → Store
  | .bytes b => .bytes b
  | .plain _ => .plain .empty

end Store

end Handover

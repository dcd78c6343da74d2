import Handover.Json.Printer

/-!
Log entries: a level, the name of an event and fields. Fields bound later take the place of earlier
ones of the same name. Entries that belong to one call from outside share an identifier; the empty text
means that none is active.
-/
namespace Handover.Audit

inductive Level
  | debug
  | info
  | warning
  | error
  | critical
  deriving DecidableEq, Repr

namespace Level

def name : Level → String
  | .debug => "debug"
  | .info => "info"
  | .warning => "warning"
  | .error => "error"
  | .critical => "critical"

def number : Level → Nat
  | .debug => 10
  | .info => 20
  | .warning => 30
  | .error => 40
  | .critical => 50

end Level

abbrev Fields := List (String × Json)

structure Entry where
  level : Level
  event : String
  fields : Fields
  deriving DecidableEq

def Entry.members (e : Entry) : Fields := Table.put "event" (.string e.event) e.fields

namespace Correlation

def enter (fresh : String) : Option String → String
  | none => fresh
  | some id => if id = "" then fresh else id

def stamp (active : String) (fields : Fields) : Fields :=
  if active = "" then fields else Table.putNew "correlation_id" (.string active) fields

end Correlation

end Handover.Audit

import Handover.Audit.Journal
import Handover.Identity
import Handover.Role.Request

/-!
Loggers of a service and of the requests it handles, and what is noted of a fault.
-/
namespace Handover.Audit

def defaultComponent : String := "access_control"

def Logger.ofService (journal : Journal) (service component ns : String) : Logger where
  journal := journal
  fields :=
    [("service", .string service), ("component", .string component), ("namespace", .string ns)]

def requestFields (active operation : String) (r : Request) (sender : Option Party) : Fields :=
  [("operation", .string operation), ("request_kind", .string r.kind)] ++
    (sender.map fun p => ("sender", Json.string p.name)).toList ++
    (if active = "" then [] else [("correlation_id", .string active)])

def Logger.ofRequest (l : Logger) (active operation : String) (r : Request)
    (sender : Option Party) : Logger :=
  l.bind (requestFields active operation r sender)

def faultLevel (f : Fault) : Level := if f.isStorage then .error else .warning

def Logger.rejection (l : Logger) (around : Surroundings) (event : String) (f : Fault) :
    Except Loss (List Line) :=
  l.logHandling around (faultLevel f) event
    [("error", .string f.code), ("message", .string f.message)]

def Journal.decodeFailure (j : Journal) (around : Surroundings) : Fault → Except Loss (List Line)
  | .storage ns (.corrupt issues) =>
    Logger.logHandling ⟨j, []⟩ around .error "admin_record_decode_failed"
      [("namespace", .string ns), ("error_count", .int issues)]
  | _ => .ok []

end Handover.Audit

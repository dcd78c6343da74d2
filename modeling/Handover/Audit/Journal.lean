import Handover.Audit.Entry
import Handover.Settings

/-!
Where entries go. A captured journal keeps every entry as it is. A written journal drops what lies
below its threshold and writes the rest: sorted JSON in production, aligned text elsewhere. Some
fields have a place of their own in the text: one without a name, names of loggers, and traces that a
caller brings. Where a trace is no text, or an integer has too many digits, the entry is lost.
-/
namespace Handover.Audit

inductive Journal
  | captured
  | written (settings : Settings)
  deriving DecidableEq

structure Surroundings where
  active : String
  fields : Fields
  time : String
  trace : String := ""
  deriving DecidableEq

inductive Loss
  | unjoined (kind : String)
  | overlong
  deriving DecidableEq, Repr

def Loss.failure : Loss → Failure
  | .unjoined kind => .mismatch (.notJoinable kind)
  | .overlong => .misfit .overlong

theorem Loss.noFault (l : Loss) (f : Fault) : l.failure ≠ .fault f := by
  cases l <;> simp [failure]

inductive Line
  | kept (fields : Fields)
  | text (s : String)
  deriving DecidableEq

def capture (e : Entry) : Fields := Table.put "log_level" (.string e.level.name) e.members

/-- Surrounding fields give way to those of the entry. Namespace and identifier are stamped only where
none is bound; level and time always are. -/
def complete (settings : Settings) (around : Surroundings) (e : Entry) : Fields :=
  let fields := Table.putAll e.members around.fields
  let fields := Table.put "level" (.string e.level.name) fields
  let fields := Table.putNew "namespace" (.string settings.ns) fields
  let fields := Correlation.stamp around.active fields
  Table.put "timestamp" (.string around.time) fields

/-- A caller asks with this field for the trace of the failure that is handled, if one is; the field
itself is never written. -/
def traceRequest : String := "exc_info"

def asked (fields : Fields) : Bool := ((Table.get? traceRequest fields).getD .null).isSet

def writable (fields : Fields) : Bool := fields.all fun f => f.2.isWritable

def machineFields (trace : Option String) (fields : Fields) : Fields :=
  let rest := fields.filter fun f => f.1 != traceRequest
  match trace with
  | some t => if asked fields then Table.put "exception" (.string t) rest else rest
  | none => rest

def machineLine (trace : Option String) (fields : Fields) : Except Loss String :=
  let fields := machineFields trace fields
  if writable fields then .ok ((Json.object fields).sortMembers.write Json.spaced)
  else .error .overlong

def needsQuotes (s : String) : Bool :=
  s.toList.any [' ', '\t', '\n', '\r', '=', '"', '\''].contains

def consoleValue : Json → String
  | .string s => if needsQuotes s then Text.quoted s else s
  | j => j.write Json.display

def padTo (width : Nat) (s : String) : String :=
  s ++ String.ofList (List.replicate (width - s.length) ' ')

def loggerNames : List String := ["logger", "logger_name"]

def joinedNames : List String := ["stack", "exception"]

def traceNames : List String := traceRequest :: joinedNames

def placedNames : List String := ["", "timestamp", "level", "event"] ++ loggerNames ++ traceNames

def bracketed : Json → String
  | .string s => "[" ++ s ++ "]"
  | j => "[" ++ j.write Json.display ++ "]"

def trace? (name : String) (fields : Fields) : Except Loss (Option String) :=
  match Table.get? name fields with
  | none | some .null => .ok none
  | some (.string s) => .ok (some s)
  | some j => .error (.unjoined j.kindName)

def traceRule : String := "\n\n" ++ String.ofList (List.replicate 79 '=') ++ "\n"

def failureTrace (trace : Option String) (fields : Fields) : Except Loss (Option String) :=
  match trace with
  | some t => if asked fields then .ok (some t) else trace? "exception" fields
  | none => trace? "exception" fields

def traces (trace : Option String) (fields : Fields) : Except Loss String := do
  let stack ← trace? "stack" fields
  let failure ← failureTrace trace fields
  let rule := if failure.isSome || asked fields then traceRule else ""
  return (stack.elim "" fun s => "\n" ++ s ++ rule) ++ failure.elim "" fun s => "\n" ++ s

def consoleLine (around : Surroundings) (e : Entry) (fields : Fields) : String :=
  let nameless := (Table.get? "" fields).map fun j => "=" ++ consoleValue j
  let lead := [around.time, "[" ++ padTo 9 e.level.name ++ "]", padTo 30 e.event]
  let loggers := loggerNames.filterMap fun name => (Table.get? name fields).map bracketed
  let rest := (Table.sorted fields).filter fun f => !placedNames.contains f.1
  let named := rest.map fun f => f.1 ++ "=" ++ consoleValue f.2
  " ".intercalate (nameless.toList ++ lead ++ loggers ++ named)

def consoleText (around : Surroundings) (trace : Option String) (e : Entry) (fields : Fields) :
    Except Loss String :=
  if writable (fields.filter fun f => !traceNames.contains f.1) then
    (traces trace fields).map fun below => consoleLine around e fields ++ below
  else .error .overlong

def linesOf (s : String) : List Line :=
  ((s.toList.splitOn '\n').filter (!·.isEmpty)).map fun l => .text (String.ofList l)

/-- What an entry adds to a journal. Text is broken at its line feeds, and empty lines are dropped. -/
def Journal.take (j : Journal) (around : Surroundings) (trace : Option String) (e : Entry) :
    Except Loss (List Line) :=
  match j with
  | .captured => .ok [.kept (capture e)]
  | .written settings =>
    if e.level.number < settings.threshold.number then .ok []
    else
      let fields := complete settings around e
      if settings.isProduction then (machineLine trace fields).map fun s => [.text s]
      else (consoleText around trace e fields).map linesOf

structure Logger where
  journal : Journal
  fields : Fields
  deriving DecidableEq

namespace Logger

def bind (l : Logger) (fields : Fields) : Logger := { l with fields := Table.putAll fields l.fields }

def entry (l : Logger) (level : Level) (event : String) (fields : Fields) : Entry :=
  ⟨level, event, Table.putAll fields l.fields⟩

def log (l : Logger) (around : Surroundings) (level : Level) (event : String) (fields : Fields) :
    Except Loss (List Line) :=
  l.journal.take around none (l.entry level event fields)

def logHandling (l : Logger) (around : Surroundings) (level : Level) (event : String)
    (fields : Fields) : Except Loss (List Line) :=
  l.journal.take around (some around.trace) (l.entry level event fields)

end Logger

def Journal.shows (j : Journal) (level : Level) : Bool :=
  match j with
  | .captured => true
  | .written settings => settings.threshold.number ≤ level.number

def outerParameters : List String := ["self", "event"]

def innerParameter : String := "method_name"

def givenTwice? (shown : Bool) (fields : Fields) : Option Mismatch :=
  match fields.find? fun f => outerParameters.contains f.1 with
  | some f =>
    some (.givenTwice
      (if shown then "_make_filtering_bound_logger.<locals>.make_method.<locals>.meth" else "_nop") f.1)
  | none =>
    if shown && fields.any fun f => f.1 == innerParameter then
      some (.givenTwice "BoundLoggerBase._proxy_to_logger" innerParameter)
    else none

def Logger.call (l : Logger) (around : Surroundings) (level : Level) (event : String)
    (fields : Fields) : Except Failure (List Line) :=
  match givenTwice? (l.journal.shows level) fields with
  | some m => .error (.mismatch m)
  | none => (l.log around level event fields).mapError Loss.failure

end Handover.Audit

import Handover.Layering.Layer

/-!
Violations and their report. The report is sorted by path, line and message, so it does not depend on
the order in which the violations were found.
-/
namespace Handover.Layering

structure Violation where
  path : String
  line : Int
  message : String
  deriving DecidableEq, Repr

def breachMessage (own target : Layer) : String :=
  own.name ++ " layer cannot import from " ++ target.name

namespace Violation

def before (a b : Violation) : Bool :=
  decide (a.path < b.path) ||
    (a.path == b.path &&
      (decide (a.line < b.line) || (a.line == b.line && decide (a.message ≤ b.message))))

def row (v : Violation) : String := "  " ++ v.path ++ ":" ++ toString v.line ++ ": " ++ v.message

def reportLines (vs : List Violation) : List String :=
  ["Import boundary violations found:", ""] ++ (vs.mergeSort before).map row ++
    ["", "Total: " ++ toString vs.length ++ " violation(s)"]

def report (vs : List Violation) : String :=
  if vs.isEmpty then "" else "\n".intercalate (reportLines vs)

end Violation

end Handover.Layering

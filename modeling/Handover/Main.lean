import Handover.Json.Reader
import Handover.Layering.Description
import Handover.Layering.Scan

/-!
The command line of the layer check. The package directory is the first argument, and the tree is described
on standard input, from where the path of that directory starts; the exit code is one if there are violations.
-/
namespace Handover.Main

open Layering

def limits : Json.Limits := ⟨100000, Json.Limits.standard.digits⟩

def check (directory description : String) : IO UInt32 := do
  match Json.read? limits description with
  | none =>
    IO.eprintln "The description of the tree is not JSON"
    return 2
  | some j =>
    let package := Path.ofText directory
    match (Tree.ofJson j).scan package (package.anchor != "") with
    | .error e =>
      IO.eprintln e.message
      return 1
    | .ok findings =>
      for w in findings.warnings do
        IO.eprintln w.message
      IO.print findings.verdict
      return findings.exitCode.toUInt32

end Handover.Main

def main (args : List String) : IO UInt32 := do
  let input ← IO.getStdin
  Handover.Main.check (args.headD Handover.Layering.packageName) (← input.readToEnd)

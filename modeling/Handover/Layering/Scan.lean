import Handover.Layering.Tree
import Handover.Layering.Violation

/-!
The scan of a package: every source file of a layer is read and each module that it imports is held
against the rules of the layer. A file that cannot be read and a missing package are warned about and
are no violations, so a clean report does not say that everything was read.
-/
namespace Handover.Layering

structure NotAFile where
  path : String
  deriving DecidableEq, Repr

def NotAFile.message (e : NotAFile) : String := "[Errno 21] Is a directory: " ++ Text.quoted e.path

inductive Warning
  | unreadable (path : String)
  | missing (directory : String)
  deriving DecidableEq, Repr

def Warning.message : Warning → String
  | .unreadable path => "Warning: Could not parse " ++ path
  | .missing directory => "Error: Package directory '" ++ directory ++ "' does not exist"

structure Findings where
  violations : List Violation
  warnings : List Warning
  deriving DecidableEq, Repr

namespace Findings

def none : Findings := ⟨[], []⟩

def append (a b : Findings) : Findings :=
  ⟨a.violations ++ b.violations, a.warnings ++ b.warnings⟩

end Findings

def packageFile : String := "__init__.py"

def breaches (own : Layer) (targets : List String) : List Layer :=
  (targets.filterMap Layer.ofModule?).filter own.breaches

def violationsIn (path : String) (own : Layer) (importer : String) (isPackage : Bool)
    (body : List Statement) : List Violation :=
  (Statement.walk body).flatMap fun f =>
    (breaches own (f.statement.targets importer isPackage)).map fun target =>
      ⟨path, f.line, breachMessage own target⟩

def scanEntry (directory : Path) (parts : List String) (e : Entry) : Except NotAFile Findings :=
  let path := (directory.child parts).text
  match Layer.ofModule? (moduleAt parts), e with
  | none, _ => .ok .none
  | some _, .directory => .error ⟨path⟩
  | some own, .file c =>
    match c.readable? with
    | none => .ok ⟨[], [.unreadable path]⟩
    | some body =>
      let isPackage := parts.getLast? == some packageFile
      .ok ⟨violationsIn path own (moduleAt parts) isPackage body, []⟩

def scanAll (directory : Path) : List (List String × Entry) → Except NotAFile Findings
  | [] => .ok .none
  | (parts, e) :: rest => do
    let first ← scanEntry directory parts e
    return first.append (← scanAll directory rest)

def Tree.scan (t : Tree) (directory : Path) (rooted : Bool := false) : Except NotAFile Findings :=
  match t.locate? rooted directory with
  | none => .ok ⟨[], [.missing directory.text]⟩
  | some root => scanAll directory (t.sources root)

namespace Findings

def verdict (f : Findings) : String :=
  if f.violations.isEmpty then "No import boundary violations found.\n"
  else Violation.report f.violations ++ "\n"

def exitCode (f : Findings) : Nat := if f.violations.isEmpty then 0 else 1

end Findings

end Handover.Layering

import Handover.Layering.ModuleName

/-!
Import statements and the modules that they name. A relative import is resolved against the package
of the importing module; one that only has dots may name submodules, and each of its names counts.
-/
namespace Handover.Layering

/-- An import of modules, or of names from a source that is found by its dots; an empty source means
that only dots are given. -/
inductive Import
  | modules (names : List String)
  | members (source : String) (dots : Int) (names : List String)
  deriving DecidableEq, Repr

/-- The items in front of an index; a negative index is counted from the end. -/
def upTo {α : Type} (k : Int) (xs : List α) : List α :=
  if 0 ≤ k then xs.take k.toNat else xs.take (xs.length + k).toNat

def packageOf (importer : String) (isPackage : Bool) : List String :=
  if isPackage then components importer else (components importer).dropLast

def climb (package : List String) (dots : Int) : List String :=
  upTo (package.length - (dots - 1)) package

def below (package : List String) (source : String) (names : List String) : List String :=
  if source = "" then names.map fun n => dotted (package ++ [n]) else [dotted (package ++ [source])]

def Import.targets (importer : String) (isPackage : Bool) : Import → List String
  | .modules names => names
  | .members source dots names =>
    if dots = 0 then (if source = "" then [] else [source])
    else below (climb (packageOf importer isPackage) dots) source names

end Handover.Layering

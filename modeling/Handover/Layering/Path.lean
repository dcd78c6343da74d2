import Handover.Layering.Layer
import Handover.Text.Quoted

/-!
Paths as they are written: an anchor and parts. Single dots and doubled slashes are dropped on
reading, two dots are kept. The name of a module comes from the parts below the package.
-/
namespace Handover.Layering

structure Path where
  anchor : String
  parts : List String
  deriving DecidableEq, Repr

inductive PathFault
  | elsewhere (path base : String)
  | unnamed
  deriving DecidableEq, Repr

def PathFault.message : PathFault → String
  | .elsewhere path base =>
    Text.quoted path ++ " is not in the subpath of " ++ Text.quoted base ++
      " OR one path is relative and the other is absolute."
  | .unnamed => "PosixPath('.') has an empty name"

namespace Path

def anchorOf : List Char → String
  | '/' :: '/' :: '/' :: _ => "/"
  | '/' :: '/' :: _ => "//"
  | '/' :: _ => "/"
  | _ => ""

def partsOf (cs : List Char) : List String :=
  ((cs.splitOn '/').map String.ofList).filter fun p => p != "" && p != "."

def ofText (s : String) : Path := ⟨anchorOf s.toList, partsOf s.toList⟩

def bare (p : Path) : String := p.anchor ++ "/".intercalate p.parts

def text (p : Path) : String := if p.bare = "" then "." else p.bare

def child (p : Path) (rest : List String) : Path := { p with parts := p.parts ++ rest }

def below (p base : Path) : Except PathFault (List String) :=
  if p.anchor = base.anchor then
    match base.parts.isPrefixOf? p.parts with
    | some rest => .ok rest
    | none => .error (.elsewhere p.text base.bare)
  else .error (.elsewhere p.text base.bare)

end Path

def stem (name : String) : String :=
  match (name.toList.reverse.span (· != '.')) with
  | (_ :: _, '.' :: rest) => if rest.isEmpty then name else String.ofList rest.reverse
  | _ => name

def packageStem : String := "__init__"

def modulePath (parts : List String) : List String :=
  let named := parts.dropLast ++ (parts.getLast?.map stem).toList
  packageName :: (if named.getLast? = some packageStem then named.dropLast else named)

def moduleAt (parts : List String) : String := dotted (modulePath parts)

def moduleName (file directory : Path) : Except PathFault String :=
  match file.below directory with
  | .error e => .error e
  | .ok [] => .error .unnamed
  | .ok parts => .ok (moduleAt parts)

end Handover.Layering

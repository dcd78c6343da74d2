import Handover.Layering.Path
import Handover.Layering.Statement

/-!
Trees of files. A file holds statements or something that cannot be read; directories are there
because files are in them.
-/
namespace Handover.Layering

inductive Content
  | statements (body : List Statement)
  | garbled

def Content.readable? : Content → Option (List Statement)
  | statements body => if Statement.areReadable depthLimit body then some body else none
  | garbled => none

inductive Entry
  | file (c : Content)
  | directory

abbrev Tree := List (List String × Content)

namespace Tree

def write (t : Tree) (path : List String) (c : Content) : Tree :=
  (path, c) :: t.filter fun f => f.1 != path

def isFile (t : Tree) (path : List String) : Bool := t.any fun f => f.1 == path

def isDirectory (t : Tree) (path : List String) : Bool :=
  path.isEmpty || t.any fun f => path.isPrefixOf f.1 && f.1 != path

/-- Follow parts from a directory. Two dots go up; from the first directory of the tree they lead out of it,
unless the tree starts at the root, which is above itself. -/
def follow? (t : Tree) (rooted : Bool) (here : List String) : List String → Option (List String)
  | [] => if t.isFile here || t.isDirectory here then some here else none
  | part :: rest =>
    if !t.isDirectory here then none
    else if part != ".." then t.follow? rooted (here ++ [part]) rest
    else if here.isEmpty && !rooted then none
    else t.follow? rooted here.dropLast rest

/-- Where a path leads in a tree that starts where the path does: at the root if it is anchored, else in the
working directory. -/
def locate? (t : Tree) (rooted : Bool) (p : Path) : Option (List String) :=
  if (p.anchor != "") == rooted then t.follow? rooted [] p.parts else none

def filesBelow (t : Tree) (root : List String) : List (List String × Content) :=
  t.filterMap fun f =>
    match root.isPrefixOf? f.1 with
    | some (part :: rest) => some (part :: rest, f.2)
    | _ => none

def parents : List String → List (List String)
  | [] | [_] => []
  | part :: rest => [part] :: (parents rest).map (part :: ·)

def directoriesBelow (t : Tree) (root : List String) : List (List String) :=
  ((t.filesBelow root).flatMap fun f => parents f.1).eraseDups

def isSource (path : List String) : Bool :=
  match path.getLast? with
  | some name => ".py".toList.isSuffixOf name.toList
  | none => false

def notAfter : List String → List String → Bool
  | [], _ => true
  | _ :: _, [] => false
  | a :: as, b :: bs => if a = b then notAfter as bs else decide (a ≤ b)

def sources (t : Tree) (root : List String) : List (List String × Entry) :=
  let files := (t.filesBelow root).map fun f => (f.1, Entry.file f.2)
  let directories := (t.directoriesBelow root).map fun d => (d, Entry.directory)
  ((files ++ directories).filter fun e => isSource e.1).mergeSort fun a b => notAfter a.1 b.1

end Tree

end Handover.Layering

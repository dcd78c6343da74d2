import Handover.Proofs.BreadthFirst

/-!
A file as its source lines. A statement is laid out as lines, with the imports that stand on each: a block
is its heading and then its body. The walk finds what stands on the lines, each import with its own line
and as often as it is written, however deep its block is.
-/
namespace Handover.Layering

namespace Statement

mutual

def lines : Statement → List (List Import)
  | line imports => [imports]
  | gap lines => List.replicate lines []
  | block body => [] :: linesOf body

def linesOf : List Statement → List (List Import)
  | [] => []
  | s :: rest => s.lines ++ linesOf rest

end

def numberedFrom (first : Nat) (lines : List (List Import)) : List (Nat × Import) :=
  (lines.zipIdx first).flatMap fun l => l.1.map fun i => (l.2, i)

def numbered (body : List Statement) : List (Nat × Import) := numberedFrom 1 (linesOf body)

@[simp] theorem numberedCons (first : Nat) (l : List Import) (rest : List (List Import)) :
    numberedFrom first (l :: rest) = l.map (first, ·) ++ numberedFrom (first + 1) rest := by
  simp [numberedFrom]

theorem numberedAppend (first : Nat) (before after : List (List Import)) :
    numberedFrom first (before ++ after) =
      numberedFrom first before ++ numberedFrom (first + before.length) after := by
  induction before generalizing first with
  | nil => rfl
  | cons l before ih => simp [ih, Nat.add_comm, Nat.add_left_comm]

theorem numberedGap (first n : Nat) : numberedFrom first (List.replicate n []) = [] := by
  induction n generalizing first with
  | zero => rfl
  | succ n ih => simp [List.replicate_succ, ih]

mutual

theorem linesHeight : (s : Statement) → s.lines.length = s.height
  | line _ => rfl
  | gap n => by simp [lines, height]
  | block body => by simp [lines, height, linesHeights body, Nat.add_comm]

theorem linesHeights : (body : List Statement) → (linesOf body).length = heights body
  | [] => rfl
  | s :: rest => by simp [linesOf, heights, linesHeight s, linesHeights rest]

end

end Statement

def Found.placed (f : Found) : Nat × Import := (f.line, f.statement)

namespace Statement

mutual

theorem withinLines (line depth : Nat) : (s : Statement) →
    ((Node.within line depth s).flatMap Node.found).map Found.placed = numberedFrom line s.lines
  | .line imports => by
    simp [Node.within, Node.found, lines, Found.placed, Function.comp_def, numberedFrom]
  | gap n => by simp [Node.within, Node.found, lines, numberedGap]
  | block body => by
    rw [Node.within, List.flatMap_cons, Node.found, List.nil_append, withinAllLines, lines,
      numberedCons, List.map_nil, List.nil_append]

theorem withinAllLines (line depth : Nat) : (body : List Statement) →
    ((Node.withinAll line depth body).flatMap Node.found).map Found.placed =
      numberedFrom line (linesOf body)
  | [] => rfl
  | s :: rest => by
    rw [Node.withinAll, List.flatMap_append, List.map_append, withinLines line depth s,
      withinAllLines (line + s.height) depth rest, linesOf, numberedAppend, linesHeight]

end

theorem walkPlaced (body : List Statement) : ((walk body).map Found.placed).Perm (numbered body) := by
  have visited := (Node.breadthFirstPerm (Node.inBody 1 0 body)).flatMap_right Node.found
  rw [← Node.withinBody] at visited
  rw [numbered, ← withinAllLines 1 0 body]
  exact visited.map Found.placed

end Statement

end Handover.Layering

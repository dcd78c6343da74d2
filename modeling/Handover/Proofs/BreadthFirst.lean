import Mathlib.Data.List.Basic
import Handover.Layering.Statement

/-!
The order of the walk. A queue never holds more than two depths, the deeper one behind; what waits at one
depth stands in the order of the lines, and what is in a statement stands on its own lines. So the nodes leave
depth by depth and line by line, and they are those that a reader meets from top to bottom.
-/
namespace Handover.Layering.Node

mutual

def within (line depth : Nat) : Statement → List Node
  | .block body => ⟨line, depth, .block body⟩ :: withinAll (line + 1) (depth + 1) body
  | s => [⟨line, depth, s⟩]

def withinAll (line depth : Nat) : List Statement → List Node
  | [] => []
  | s :: rest => within line depth s ++ withinAll (line + s.height) depth rest

end

def descend (n : Node) : List Node := within n.line n.depth n.statement

theorem withinBody (line depth : Nat) (body : List Statement) :
    withinAll line depth body = (inBody line depth body).flatMap descend := by
  induction body generalizing line with
  | nil => rfl
  | cons s rest ih => rw [withinAll, ih, inBody, List.flatMap_cons, descend]

theorem descendCons (n : Node) : n.descend = n :: n.children.flatMap descend := by
  obtain ⟨line, depth, s⟩ := n
  cases s with
  | block body => rw [descend, within, withinBody, children]
  | _ => rfl

theorem breadthFirstPerm (queue : List Node) : (breadthFirst queue).Perm (queue.flatMap descend) := by
  induction queue using breadthFirst.induct with
  | case1 => rw [breadthFirst]; exact .nil
  | case2 n queue ih =>
    rw [List.flatMap_append] at ih
    rw [breadthFirst, List.flatMap_cons, descendCons, List.cons_append]
    exact (ih.trans List.perm_append_comm).cons n

def stop (n : Node) : Nat := n.line + n.statement.height

/-- Of two nodes that wait, the one behind is as deep and below, or it is one deeper and above. -/
def Ahead (n m : Node) : Prop :=
  n.depth = m.depth ∧ n.stop ≤ m.line ∨ m.depth = n.depth + 1 ∧ m.stop ≤ n.line

def Before (n m : Node) : Prop := n.depth < m.depth ∨ n.depth = m.depth ∧ n.stop ≤ m.line

theorem inBodyPlaced {line depth : Nat} {body : List Statement} {n : Node}
    (inside : n ∈ inBody line depth body) :
    n.depth = depth ∧ line ≤ n.line ∧ n.stop ≤ line + Statement.heights body := by
  induction body generalizing line with
  | nil => cases inside
  | cons s rest ih =>
    rw [Statement.heights]
    rcases List.mem_cons.mp inside with rfl | later
    · exact ⟨rfl, Nat.le_refl _, by simp only [stop]; omega⟩
    · obtain ⟨deep, low, high⟩ := ih later
      exact ⟨deep, by omega, by omega⟩

theorem inBodyAhead (line depth : Nat) (body : List Statement) :
    (inBody line depth body).Pairwise Ahead := by
  induction body generalizing line with
  | nil => exact .nil
  | cons s rest ih =>
    refine List.pairwise_cons.mpr ⟨fun m later => ?_, ih _⟩
    obtain ⟨deep, low, -⟩ := inBodyPlaced later
    exact Or.inl ⟨deep.symm, low⟩

theorem childPlaced {n m : Node} (inside : m ∈ n.children) :
    m.depth = n.depth + 1 ∧ n.line < m.line ∧ m.stop ≤ n.stop := by
  obtain ⟨line, depth, s⟩ := n
  cases s with
  | block body =>
    obtain ⟨deep, low, high⟩ := inBodyPlaced inside
    refine ⟨deep, low, ?_⟩
    simp only [stop, Statement.height] at high ⊢
    omega
  | _ => cases inside

theorem childrenAhead (n : Node) : n.children.Pairwise Ahead := by
  obtain ⟨line, depth, s⟩ := n
  cases s with
  | block body => exact inBodyAhead _ _ body
  | _ => exact .nil

theorem stepAhead {n : Node} {queue : List Node} (ordered : (n :: queue).Pairwise Ahead) :
    (queue ++ n.children).Pairwise Ahead := by
  obtain ⟨first, rest⟩ := List.pairwise_cons.mp ordered
  refine List.pairwise_append.mpr ⟨rest, childrenAhead n, fun m waiting c inside => ?_⟩
  obtain ⟨deep, low, high⟩ := childPlaced inside
  rcases first m waiting with ⟨level, below⟩ | ⟨deeper, above⟩
  · exact Or.inr ⟨by omega, by omega⟩
  · exact Or.inl ⟨by omega, by omega⟩

mutual

theorem withinDepth (line depth : Nat) : (s : Statement) → ∀ m ∈ within line depth s,
    m = ⟨line, depth, s⟩ ∨ depth < m.depth
  | .block body, m, inside => by
    rcases List.mem_cons.mp inside with rfl | deeper
    · exact Or.inl rfl
    · exact Or.inr (withinAllDepth (line + 1) (depth + 1) body m deeper)
  | .line _, _, inside | .gap _, _, inside => Or.inl (List.mem_singleton.mp inside)

theorem withinAllDepth (line depth : Nat) : (body : List Statement) → ∀ m ∈ withinAll line depth body,
    depth ≤ m.depth
  | s :: rest, m, inside => by
    rcases List.mem_append.mp inside with first | later
    · rcases withinDepth line depth s m first with rfl | deeper
      · exact Nat.le_refl _
      · exact Nat.le_of_lt deeper
    · exact withinAllDepth (line + s.height) depth rest m later

end

theorem beforeDescend {n m x : Node} (ahead : n.Ahead m) (inside : x ∈ m.descend) : n.Before x := by
  rcases withinDepth _ _ _ x inside with rfl | deeper
  · rcases ahead with level | ⟨deep, -⟩
    · exact Or.inr level
    · exact Or.inl (by rw [deep]; omega)
  · rcases ahead with ⟨level, -⟩ | ⟨deep, -⟩ <;> exact Or.inl (by omega)

theorem breadthFirstBefore {queue : List Node} (ordered : queue.Pairwise Ahead) :
    (breadthFirst queue).Pairwise Before := by
  induction queue using breadthFirst.induct with
  | case1 => rw [breadthFirst]; exact .nil
  | case2 n queue ih =>
    rw [breadthFirst]
    refine List.pairwise_cons.mpr ⟨fun x later => ?_, ih (stepAhead ordered)⟩
    -- what comes later is in a node that waits now, or in a child of the one that leaves
    rw [(breadthFirstPerm _).mem_iff] at later
    obtain ⟨m, waiting, inside⟩ := List.mem_flatMap.mp later
    rcases List.mem_append.mp waiting with queued | child
    · exact beforeDescend (List.rel_of_pairwise_cons ordered queued) inside
    · have deep := (childPlaced child).1
      rcases withinDepth _ _ _ x inside with rfl | deeper
      · exact Or.inl (by rw [deep]; omega)
      · exact Or.inl (by omega)

end Handover.Layering.Node

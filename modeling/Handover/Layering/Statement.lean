import Handover.Layering.Import

/-!
Statements of a file, one line each, with blocks in blocks. Of a line only its imports matter. The
walk takes its next statement from the front of a queue and lines up what is in it at the end.
-/
namespace Handover.Layering

inductive Statement
  | line (imports : List Import)
  | gap (lines : Nat)
  | block (body : List Statement)

structure Found where
  line : Nat
  depth : Nat
  statement : Import
  deriving DecidableEq, Repr

def depthLimit : Nat := 99

namespace Statement

def isGap : Statement → Bool
  | gap _ => true
  | _ => false

mutual

def isReadable (levels : Nat) : Statement → Bool
  | block body =>
    match levels with
    | 0 => false
    | levels + 1 => !body.all isGap && areReadable levels body
  | _ => true

def areReadable (levels : Nat) : List Statement → Bool
  | [] => true
  | s :: rest => s.isReadable levels && areReadable levels rest

end

mutual

def height : Statement → Nat
  | gap lines => lines
  | block body => 1 + heights body
  | _ => 1

def heights : List Statement → Nat
  | [] => 0
  | s :: rest => s.height + heights rest

end

mutual

def size : Statement → Nat
  | block body => 1 + sizes body
  | _ => 1

def sizes : List Statement → Nat
  | [] => 0
  | s :: rest => s.size + sizes rest

end

end Statement

structure Node where
  line : Nat
  depth : Nat
  statement : Statement

namespace Node

def inBody (line depth : Nat) : List Statement → List Node
  | [] => []
  | s :: rest => ⟨line, depth, s⟩ :: inBody (line + s.height) depth rest

def children (n : Node) : List Node :=
  match n.statement with
  | .block body => inBody (n.line + 1) (n.depth + 1) body
  | _ => []

def found (n : Node) : List Found :=
  match n.statement with
  | .line imports => imports.map fun i => ⟨n.line, n.depth, i⟩
  | _ => []

def waiting (queue : List Node) : Nat := Statement.sizes (queue.map Node.statement)

theorem waitingAppend (queue more : List Node) :
    waiting (queue ++ more) = waiting queue + waiting more := by
  induction queue with
  | nil => simp [waiting, Statement.sizes]
  | cons n queue ih =>
    simp only [waiting, List.cons_append, List.map_cons, Statement.sizes] at ih ⊢
    omega

theorem statementsInBody (line depth : Nat) (body : List Statement) :
    (inBody line depth body).map Node.statement = body := by
  induction body generalizing line with
  | nil => rfl
  | cons s rest ih => simp [inBody, ih]

theorem waitingChildren (n : Node) : waiting n.children < n.statement.size := by
  obtain ⟨line, depth, s⟩ := n
  cases s with
  | block body =>
    rw [children, waiting, statementsInBody, Statement.size]
    omega
  | _ => simp [children, waiting, Statement.sizes, Statement.size]

def breadthFirst : List Node → List Node
  | [] => []
  | n :: queue => n :: breadthFirst (queue ++ n.children)
termination_by queue => waiting queue
decreasing_by
  have smaller := waitingChildren n
  have whole : waiting (n :: queue) = n.statement.size + waiting queue := rfl
  rw [waitingAppend, whole]
  omega

end Node

namespace Statement

def walk (body : List Statement) : List Found :=
  (Node.breadthFirst (Node.inBody 1 0 body)).flatMap Node.found

end Statement

end Handover.Layering

import Mathlib.Data.List.Pairwise
import Handover.Proofs.ScanReport
import Handover.Proofs.StableSort

/-!
The violations of a file against its source. Every target of an import is met once, depth by depth, line by
line within a depth and in its place within a line. Sorted by their lines the violations stand as a reader
from top to bottom would collect them. A file whose blocks go deeper than the parser does reports nothing.
-/
namespace Handover.Layering

structure Mention where
  depth : Nat
  line : Nat
  position : Nat
  target : String

namespace Mention

def Sooner (a b : Mention) : Prop :=
  a.depth < b.depth ∨
    a.depth = b.depth ∧ (a.line < b.line ∨ a.line = b.line ∧ a.position < b.position)

/-- The order of the source; what stands on one line stands in the same blocks. -/
def Above (a b : Mention) : Prop :=
  a.line < b.line ∨ a.line = b.line ∧ a.depth = b.depth ∧ a.position < b.position

def violations (path : String) (own : Option Layer) (m : Mention) : List Violation :=
  own.elim [] fun own =>
    (breached own [m.target]).map fun l => ⟨path, m.line, breachMessage own l⟩

end Mention

section
variable (targets : Import → List String)

def mentionsOn (line depth : Nat) (imports : List Import) : List Mention :=
  (imports.flatMap targets).zipIdx.map fun t => ⟨depth, line, t.2, t.1⟩

mutual

def mentions (line depth : Nat) : Statement → List Mention
  | .line imports => mentionsOn targets line depth imports
  | .gap _ => []
  | .block body => mentionsIn (line + 1) (depth + 1) body

def mentionsIn (line depth : Nat) : List Statement → List Mention
  | [] => []
  | s :: rest => mentions line depth s ++ mentionsIn (line + s.height) depth rest

end

def Node.mentions (n : Node) : List Mention :=
  match n.statement with
  | .line imports => mentionsOn targets n.line n.depth imports
  | _ => []

mutual

theorem withinMentions (line depth : Nat) : (s : Statement) →
    (Node.within line depth s).flatMap (Node.mentions targets) = mentions targets line depth s
  | .line imports => by simp [Node.within, Node.mentions, mentions]
  | .gap n => by simp [Node.within, Node.mentions, mentions]
  | .block body => by
    rw [Node.within, List.flatMap_cons, Node.mentions, List.nil_append, withinAllMentions, mentions]

theorem withinAllMentions (line depth : Nat) : (body : List Statement) →
    (Node.withinAll line depth body).flatMap (Node.mentions targets) =
      mentionsIn targets line depth body
  | [] => rfl
  | s :: rest => by
    rw [Node.withinAll, List.flatMap_append, withinMentions line depth s,
      withinAllMentions (line + s.height) depth rest, mentionsIn]

end

theorem mentionsOnPlaced {line depth : Nat} {imports : List Import} {m : Mention}
    (member : m ∈ mentionsOn targets line depth imports) : m.line = line ∧ m.depth = depth := by
  obtain ⟨t, -, rfl⟩ := List.mem_map.mp member
  exact ⟨rfl, rfl⟩

theorem mentionsOnOrder (line depth : Nat) (imports : List Import) :
    (mentionsOn targets line depth imports).Pairwise fun a b => a.position < b.position := by
  have positions : ((imports.flatMap targets).zipIdx.map Prod.snd).Pairwise (· < ·) := by
    rw [List.zipIdx_map_snd]
    exact List.pairwise_lt_range'
  exact List.pairwise_map.mpr (List.pairwise_map.mp positions)

mutual

theorem mentionsLines (line depth : Nat) : (s : Statement) → ∀ m ∈ mentions targets line depth s,
    line ≤ m.line ∧ m.line < line + s.height
  | .line imports, m, member => by
    obtain ⟨rfl, -⟩ := mentionsOnPlaced targets member
    exact ⟨Nat.le_refl _, by simp [Statement.height]⟩
  | .block body, m, member => by
    obtain ⟨low, high⟩ := mentionsInLines (line + 1) (depth + 1) body m member
    rw [Statement.height]
    exact ⟨by omega, by omega⟩

theorem mentionsInLines (line depth : Nat) : (body : List Statement) →
    ∀ m ∈ mentionsIn targets line depth body, line ≤ m.line ∧ m.line < line + Statement.heights body
  | s :: rest, m, member => by
    rw [Statement.heights]
    rcases List.mem_append.mp member with first | later
    · obtain ⟨low, high⟩ := mentionsLines line depth s m first
      exact ⟨low, by omega⟩
    · obtain ⟨low, high⟩ := mentionsInLines (line + s.height) depth rest m later
      exact ⟨by omega, by omega⟩

end

mutual

theorem mentionsAbove (line depth : Nat) : (s : Statement) →
    (mentions targets line depth s).Pairwise Mention.Above
  | .line imports => by
    refine (mentionsOnOrder targets line depth imports).imp_of_mem fun first second sooner => ?_
    obtain ⟨line, depth⟩ := mentionsOnPlaced targets first
    obtain ⟨line', depth'⟩ := mentionsOnPlaced targets second
    exact Or.inr ⟨line.trans line'.symm, depth.trans depth'.symm, sooner⟩
  | .gap _ => .nil
  | .block body => mentionsInAbove (line + 1) (depth + 1) body

theorem mentionsInAbove (line depth : Nat) : (body : List Statement) →
    (mentionsIn targets line depth body).Pairwise Mention.Above
  | [] => .nil
  | s :: rest => by
    refine List.pairwise_append.mpr ⟨mentionsAbove line depth s,
      mentionsInAbove (line + s.height) depth rest, fun a first b later => ?_⟩
    have high := (mentionsLines targets line depth s a first).2
    have low := (mentionsInLines targets (line + s.height) depth rest b later).1
    exact Or.inl (by omega)

end

theorem nodeMention {n : Node} {m : Mention} (member : m ∈ n.mentions targets) :
    m.line = n.line ∧ m.depth = n.depth ∧ n.line < n.stop := by
  obtain ⟨line, depth, s⟩ := n
  cases s with
  | line imports =>
    obtain ⟨line, depth⟩ := mentionsOnPlaced targets member
    exact ⟨line, depth, by simp [Node.stop, Statement.height]⟩
  | _ => cases member

theorem nodeSooner (n : Node) : (n.mentions targets).Pairwise Mention.Sooner := by
  have ordered : (n.mentions targets).Pairwise fun a b => a.position < b.position := by
    unfold Node.mentions
    split
    · exact mentionsOnOrder targets _ _ _
    · exact .nil
  refine ordered.imp_of_mem fun first second sooner => ?_
  obtain ⟨line, depth, -⟩ := nodeMention targets first
  obtain ⟨line', depth', -⟩ := nodeMention targets second
  exact Or.inr ⟨depth.trans depth'.symm, Or.inr ⟨line.trans line'.symm, sooner⟩⟩

def visited (body : List Statement) : List Mention :=
  (Node.breadthFirst (Node.inBody 1 0 body)).flatMap (Node.mentions targets)

theorem visitedPerm (body : List Statement) :
    (visited targets body).Perm (mentionsIn targets 1 0 body) := by
  have whole := (Node.breadthFirstPerm (Node.inBody 1 0 body)).flatMap_right (Node.mentions targets)
  rwa [← Node.withinBody, withinAllMentions] at whole

theorem visitedSooner (body : List Statement) : (visited targets body).Pairwise Mention.Sooner := by
  refine List.pairwise_flatMap.mpr ⟨fun n _ => nodeSooner targets n, ?_⟩
  refine (Node.breadthFirstBefore (Node.inBodyAhead 1 0 body)).imp fun {n m} before a first b second => ?_
  obtain ⟨line, depth, some⟩ := nodeMention targets first
  obtain ⟨line', depth', -⟩ := nodeMention targets second
  rcases before with shallower | ⟨level, above⟩
  · exact Or.inl (by omega)
  · exact Or.inr ⟨by omega, Or.inl (by omega)⟩

end

section
variable (path : String) (own : Option Layer)

theorem reportedLine {m : Mention} {v : Violation} (reported : v ∈ m.violations path own) :
    v.line = m.line := by
  cases own with
  | none => cases reported
  | some own =>
    obtain ⟨l, -, rfl⟩ := List.mem_map.mp reported
    rfl

theorem reportedOn (ms : List Mention) (k : Int) :
    (ms.flatMap (Mention.violations path own)).filter (Violation.line · = k) =
      (ms.filter fun m => (m.line : Int) = k).flatMap (Mention.violations path own) := by
  induction ms with
  | nil => rfl
  | cons m ms ih =>
    rw [List.flatMap_cons, List.filter_append, ih, List.filter_cons]
    by_cases here : (m.line : Int) = k
    · have all : (m.violations path own).filter (Violation.line · = k) = m.violations path own := by
        refine List.filter_eq_self.mpr fun v reported => ?_
        rw [reportedLine path own reported]
        exact decide_eq_true here
      rw [all, if_pos (decide_eq_true here), List.flatMap_cons]
    · have none : (m.violations path own).filter (Violation.line · = k) = [] := by
        refine List.filter_eq_nil_iff.mpr fun v reported => ?_
        rw [reportedLine path own reported]
        simpa using here
      rw [none, if_neg (by simpa using here), List.nil_append]

theorem lineViolations (own : Layer) (targets : Import → List String) (line depth : Nat)
    (imports : List Import) :
    (mentionsOn targets line depth imports).flatMap (Mention.violations path (some own)) =
      imports.flatMap fun i => (breached own (targets i)).map fun l =>
        ⟨path, line, breachMessage own l⟩ := by
  have each : (mentionsOn targets line depth imports).flatMap (Mention.violations path (some own)) =
      ((imports.flatMap targets).zipIdx.map Prod.fst).flatMap fun t =>
        (breached own [t]).map fun l => ⟨path, line, breachMessage own l⟩ := by
    rw [mentionsOn, List.flatMap_map, List.flatMap_map]
    rfl
  rw [each, List.zipIdx_map_fst, List.flatMap_assoc]
  congr 1
  funext i
  simp [breached, List.map_flatMap]

theorem walkViolations (own : Layer) (importer : String) (isPackage : Bool) (body : List Statement) :
    violationsIn path own importer isPackage body =
      (visited (Import.targets importer isPackage) body).flatMap
        (Mention.violations path (some own)) := by
  rw [violationsIn, Statement.walk, visited, List.flatMap_assoc, List.flatMap_assoc]
  congr 1
  funext n
  obtain ⟨line, depth, s⟩ := n
  cases s with
  | line imports =>
    rw [Node.mentions, lineViolations, Node.found, List.flatMap_map]
    simp only [breachesCovered]
  | _ => rfl

end

section
variable (targets : Import → List String) (body : List Statement)

theorem levelOfLine {a b : Mention} (first : a ∈ mentionsIn targets 1 0 body)
    (second : b ∈ mentionsIn targets 1 0 body) (same : a.line = b.line) : a.depth = b.depth := by
  let Level (a b : Mention) : Prop := a.line = b.line → a.depth = b.depth
  have symm : Std.Symm Level := ⟨fun a b level same => (level same.symm).symm⟩
  have apart : (mentionsIn targets 1 0 body).Pairwise Level := by
    refine (mentionsInAbove targets 1 0 body).imp fun above same => ?_
    rcases above with lower | ⟨-, level, -⟩
    · omega
    · exact level
  exact List.Pairwise.forall_of_forall (fun a _ _ => rfl) apart first second same

theorem visitedOnLine (k : Int) :
    (visited targets body).filter (fun m => (m.line : Int) = k) =
      (mentionsIn targets 1 0 body).filter fun m => (m.line : Int) = k := by
  have perm := visitedPerm targets body
  have onLine {ms : List Mention} {m : Mention} (member : m ∈ ms.filter fun m => (m.line : Int) = k) :
      m ∈ ms ∧ (m.line : Int) = k := by simpa using member
  let Before (a b : Mention) : Prop := a.position < b.position
  have never (a b : Mention) : Before a b → Before b a → a = b := fun sooner later => by omega
  refine List.Perm.eq_of_pairwise (fun a b _ _ => never a b) ?_ ?_ (perm.filter _)
  · refine ((visitedSooner targets body).filter _).imp_of_mem fun {a b} first second sooner => ?_
    obtain ⟨inside, line⟩ := onLine first
    obtain ⟨inside', line'⟩ := onLine second
    have level := levelOfLine targets body (perm.mem_iff.mp inside) (perm.mem_iff.mp inside') (by omega)
    rcases sooner with shallower | ⟨-, lower | ⟨-, position⟩⟩
    · omega
    · omega
    · exact position
  · refine ((mentionsInAbove targets 1 0 body).filter _).imp_of_mem fun {a b} first second above => ?_
    have line := (onLine first).2
    have line' := (onLine second).2
    rcases above with lower | ⟨-, -, position⟩
    · omega
    · exact position

end

section
variable (path : String) (own : Option Layer) (targets : Import → List String) (body : List Statement)

def collected : List Violation :=
  (mentionsIn targets 1 0 body).flatMap (Mention.violations path own)

theorem collectedSorted : (collected path own targets body).Pairwise fun a b => a.line ≤ b.line := by
  refine List.pairwise_flatMap.mpr ⟨fun m _ => ?_, ?_⟩
  · refine List.pairwise_of_forall_mem_list fun a first b second => Int.le_of_eq ?_
    rw [reportedLine path own first, reportedLine path own second]
  · refine (mentionsInAbove targets 1 0 body).imp fun above a first b second => ?_
    rw [reportedLine path own first, reportedLine path own second]
    rcases above with lower | ⟨same, -⟩ <;> omega

theorem sortedByLine :
    (((visited targets body).flatMap (Mention.violations path own)).mergeSort
      fun a b => decide (a.line ≤ b.line)) = collected path own targets body := by
  refine sortedOutcome Violation.line (collectedSorted path own targets body) fun k => ?_
  rw [collected, reportedOn, reportedOn, visitedOnLine]

end

theorem scanBody (directory : Path) (parts : List String) (body : List Statement) :
    ∃ found, scanEntry directory parts (.file (.statements body)) = .ok found ∧
      found.violations =
        if Statement.areReadable depthLimit body then
          (visited (Import.targets (moduleAt parts) (isPackageFile parts)) body).flatMap
            (Mention.violations (directory.child parts).text (Layer.ofModule? (moduleAt parts)))
        else [] := by
  unfold scanEntry
  cases Layer.ofModule? (moduleAt parts) with
  | none => exact ⟨.none, rfl, by simp [Findings.none, Mention.violations]⟩
  | some own =>
    cases read : Statement.areReadable depthLimit body with
    | false => exact ⟨_, by simp only [Content.readable?, read]; rfl, rfl⟩
    | true =>
      refine ⟨_, by simp only [Content.readable?, read]; rfl, ?_⟩
      rw [if_pos rfl]
      exact walkViolations _ own _ _ body

/-- The violations of a file are those that are collected from top to bottom, each target of an import counted
once. They come depth by depth, line by line within a depth and in the order of the targets within a line, and
sorting them by line restores the order of the source. A file that does not parse has none. -/
theorem walkInOrder (directory : Path) (parts : List String) (body : List Statement) :
    let path := (directory.child parts).text
    let own := Layer.ofModule? (moduleAt parts)
    let source := mentionsIn (Import.targets (moduleAt parts) (isPackageFile parts)) 1 0 body
    source.Pairwise Mention.Above ∧
    ∃ (walked : List Mention) (found : Findings), walked.Perm source ∧ walked.Pairwise Mention.Sooner ∧
      scanEntry directory parts (.file (.statements body)) = .ok found ∧
      (Statement.areReadable depthLimit body = true →
        found.violations = walked.flatMap (Mention.violations path own) ∧
        found.violations.Perm (source.flatMap (Mention.violations path own)) ∧
        (found.violations.mergeSort fun a b => decide (a.line ≤ b.line)) =
          source.flatMap (Mention.violations path own)) ∧
      (Statement.areReadable depthLimit body = false → found.violations = []) := by
  intro path own source
  let targets := Import.targets (moduleAt parts) (isPackageFile parts)
  have perm := visitedPerm targets body
  obtain ⟨found, scanned, reported⟩ := scanBody directory parts body
  refine ⟨mentionsInAbove targets 1 0 body, visited targets body, found, perm,
    visitedSooner targets body, scanned, fun read => ?_, fun unread => ?_⟩
  · rw [if_pos read] at reported
    rw [reported]
    exact ⟨rfl, perm.flatMap_right _, sortedByLine path own targets body⟩
  · rw [reported, unread]
    rfl

-- The import inside the block stands on line 2, and it is found after the one below the block.
example : (violationsIn "a.py" .domain "secure_admin.domain.a" false
    [.block [.line [.modules ["secure_admin.api"]]], .line [.modules ["secure_admin.config"]]]).map
      Violation.line = [3, 2] := by decide +kernel

def nested (line : Statement) : Nat → Statement
  | 0 => line
  | n + 1 => .block [nested line n]

theorem nestedUnread (line : Statement) {levels n : Nat} (deep : levels < n) :
    (nested line n).isReadable levels = false := by
  induction n generalizing levels with
  | zero => omega
  | succ n ih =>
    cases levels with
    | zero => rfl
    | succ levels =>
      rw [nested, Statement.isReadable, Statement.areReadable, ih (by omega)]
      simp

def deepImport : List Statement := [nested (.line [.modules ["secure_admin.api"]]) 100]

/-- The parser gives up at a hundred blocks, and an import in there is not reported. -/
theorem deepImportUnread :
    (mentionsIn (Import.targets "secure_admin.domain.a" false) 1 0 deepImport).flatMap
        (Mention.violations "secure_admin/domain/a.py" (some .domain)) =
      [⟨"secure_admin/domain/a.py", 101, "domain layer cannot import from api"⟩] ∧
    scanEntry ⟨"", ["secure_admin"]⟩ ["domain", "a.py"] (.file (.statements deepImport)) =
      .ok ⟨[], [.unreadable "secure_admin/domain/a.py"]⟩ := by
  have unread : Statement.areReadable depthLimit deepImport = false := by
    rw [deepImport, Statement.areReadable, nestedUnread _ (by decide), Bool.false_and]
  have own : Layer.ofModule? (moduleAt ["domain", "a.py"]) = some .domain := by decide
  have path : (Path.child ⟨"", ["secure_admin"]⟩ ["domain", "a.py"]).text =
      "secure_admin/domain/a.py" := by
    decide
  refine ⟨by decide +kernel, ?_⟩
  simp only [scanEntry, own, Content.readable?, unread, path]
  rfl

end Handover.Layering

import Mathlib.Data.List.TakeWhile
import Handover.Proofs.Spelling

/-!
Relative imports by the dots of names alone. A module lies in the package that its name gives before the last
dot. The first dot of an import stands for the package of its file, each further one for the package around.
The checker cuts a list of components to a length instead, and starts from another list in the file of a
package. As long as the dots do not lead out of the top-level package, both name the same modules.
-/
namespace Handover.Layering

def enclosing? (name : String) : Option String :=
  match name.toList.reverse.dropWhile (· != '.') with
  | [] => none
  | _ :: front => some (String.ofList front.reverse)

def ascend? : Nat → String → Option String
  | 0, package => some package
  | n + 1, package => (enclosing? package).bind (ascend? n)

def stated (origin : String) (names : List String) : List String :=
  if origin = "" then names else [origin]

def packagePath (parts : List String) : List String := packageName :: parts.dropLast

theorem enclosingOwn (package : String) {last : String} (plain : '.' ∉ last.toList) :
    enclosing? (package ++ "." ++ last) = some package := by
  have backwards : (package ++ "." ++ last).toList.reverse =
      last.toList.reverse ++ '.' :: package.toList.reverse := by simp
  have dotless : ∀ c ∈ last.toList.reverse, (c != '.') = true := by
    intro c inside
    rw [bne_iff_ne]
    rintro rfl
    exact plain (List.mem_reverse.mp inside)
  rw [enclosing?, backwards, List.dropWhile_append_of_pos dotless]
  simp

theorem enclosingPlain {name : String} (plain : '.' ∉ name.toList) : enclosing? name = none := by
  have all : name.toList.reverse.dropWhile (· != '.') = [] := by
    rw [List.dropWhile_eq_nil_iff]
    intro c inside
    rw [bne_iff_ne]
    rintro rfl
    exact plain (List.mem_reverse.mp inside)
  rw [enclosing?, all]

theorem dottedConcat {front : List String} (more : front ≠ []) (last : String) :
    dotted (front ++ [last]) = dotted front ++ "." ++ last := by
  induction front with
  | nil => exact (more rfl).elim
  | cons first rest ih =>
    cases rest with
    | nil => simp [dotted]
    | cons next rest =>
      rw [List.cons_append, dottedCons first (by simp), ih (by simp), dottedCons first (by simp)]
      simp only [String.append_assoc]

theorem ascendDotted {parts : List String} (plain : ∀ p ∈ parts, '.' ∉ p.toList)
    (nonempty : parts ≠ [])
    (n : Nat) :
    ascend? n (dotted parts) =
      if n < parts.length then some (dotted (parts.take (parts.length - n))) else none := by
  -- one step up takes the last component off; the top-level one has no package around it
  induction n generalizing parts with
  | zero => simp [ascend?, List.length_pos_iff.mpr nonempty]
  | succ n ih =>
    obtain ⟨front, last, rfl⟩ := (List.eq_nil_or_concat' parts).resolve_left nonempty
    have plainLast : '.' ∉ last.toList := plain last (by simp)
    by_cases more : front = []
    · subst more
      have own : dotted ([] ++ [last]) = last := by simp [dotted]
      rw [own, ascend?, enclosingPlain plainLast, if_neg (by simp)]
      rfl
    · have length : (front ++ [last]).length = front.length + 1 := by simp
      have shorter : front.length + 1 - (n + 1) = front.length - n := by omega
      rw [dottedConcat more, ascend?, enclosingOwn _ plainLast, Option.bind_some,
        ih (fun p member => plain p (List.mem_append_left _ member)) more, length, shorter,
        List.take_append_of_le_length (by omega)]
      simp only [Nat.add_lt_add_iff_right]

theorem climbTake (package : List String) (level : Nat) :
    climb package level = package.take
      (if level ≤ package.length + 1 then package.length + 1 - level
        else 2 * package.length + 1 - level) := by
  unfold climb upTo
  by_cases within : level ≤ package.length + 1
  · rw [if_pos within, if_pos (by omega)]
    congr 1
    omega
  · rw [if_neg within, if_neg (by omega)]
    congr 1
    omega

theorem moduleNameBelow (directory : Path) {parts : List String} (nonempty : parts ≠ []) :
    moduleName (directory.child parts) directory = .ok (moduleAt parts) := by
  have rest : directory.parts.isPrefixOf? (directory.parts ++ parts) = some parts :=
    List.isPrefixOf?_eq_some_iff_append_eq.mpr rfl
  have below : (directory.child parts).below directory = .ok parts := by
    simp only [Path.below, Path.child, if_pos, rest]
  unfold moduleName
  rw [below]
  cases parts with
  | nil => exact (nonempty rfl).elim
  | cons first rest => rfl

section
variable {parts : List String}

theorem packagePathPlain (source : SourcePath parts) : ∀ p ∈ packagePath parts, '.' ∉ p.toList := by
  simpa [packagePath, packagePlain] using source.folders

theorem packagePathLength (source : SourcePath parts) : (packagePath parts).length = parts.length := by
  have some := List.length_pos_iff.mpr (sourceNonempty source)
  simp only [packagePath, List.length_cons, List.length_dropLast]
  omega

theorem relativeTargets (source : SourcePath parts) (named : parts.getLast? ≠ some ".py") {level : Nat}
    (positive : 1 ≤ level) (origin : String) (names : List String) :
    (Import.members origin level names).targets (moduleAt parts) (isPackageFile parts) =
      (stated origin names).map fun x => dotted (climb (packagePath parts) level ++ [x]) := by
  have relative : (level : Int) ≠ 0 := by omega
  simp only [Import.targets, if_neg relative, packageOfFile source named, below, stated, packagePath]
  split <;> rfl

theorem insideLayer {own : Layer} (layer : fileLayer? parts = some own) {kept : Nat} (deep : 2 ≤ kept)
    (within : kept ≤ parts.length) (x : String) :
    Layer.ofModule? (dotted ((packagePath parts).take kept ++ [x])) = some own := by
  obtain ⟨folder, next, rest, rfl⟩ : ∃ folder next rest, parts = folder :: next :: rest := by
    match parts, within with
    | [], short => simp at short; omega
    | [_], short => simp at short; omega
    | folder :: next :: rest, _ => exact ⟨folder, next, rest, rfl⟩
  obtain rfl : folder = own.name := Layer.ofNameIff.mp layer
  obtain ⟨more, rfl⟩ : ∃ more, kept = more + 2 := ⟨kept - 2, by omega⟩
  have front : (packagePath (own.name :: next :: rest)).take (more + 2) =
      packageName :: own.name :: (next :: rest).dropLast.take more := rfl
  rw [front, Layer.ofModuleCovers, Layer.coversIff, List.cons_append, List.cons_append,
    dottedCons _ (by simp), dottedCons _ (by simp)]
  exact Or.inr ⟨_, by simp only [String.append_assoc]; rfl⟩

/-- A file and all beside it resolve a relative import as its dots say: from the package of their folder so
many packages up less one, and from there down to what the import states. With fewer dots than its path has
parts, a file of a layer names modules of that layer only. -/
theorem relativeResolved (source : SourcePath parts) (named : parts.getLast? ≠ some ".py") {level : Nat}
    (positive : 1 ≤ level) (within : level ≤ parts.length) (directory : Path) (origin : String)
    (names : List String) :
    moduleName (directory.child parts) directory = .ok (moduleAt parts) ∧
    (∃ base, ascend? (level - 1) (dotted (packagePath parts)) = some base ∧
      base = dotted ((packagePath parts).take (parts.length - (level - 1))) ∧
      (Import.members origin level names).targets (moduleAt parts) (isPackageFile parts) =
        (stated origin names).map fun x => base ++ "." ++ x) ∧
    (∀ sibling : List String, SourcePath sibling → sibling.getLast? ≠ some ".py" →
      sibling.dropLast = parts.dropLast → ∀ i : Import,
        i.targets (moduleAt sibling) (isPackageFile sibling) =
          i.targets (moduleAt parts) (isPackageFile parts)) ∧
    ∀ own : Layer, fileLayer? parts = some own → level < parts.length →
      ∀ target ∈ (Import.members origin level names).targets (moduleAt parts) (isPackageFile parts),
        Layer.ofModule? target = some own := by
  have length := packagePathLength source
  have climbed : climb (packagePath parts) level =
      (packagePath parts).take (parts.length - (level - 1)) := by
    rw [climbTake, length, if_pos (by omega)]
    congr 1
    omega
  have targets := relativeTargets source named positive origin names
  rw [climbed] at targets
  refine ⟨moduleNameBelow directory (sourceNonempty source), ⟨_, ?_, rfl, ?_⟩, ?_, ?_⟩
  · rw [ascendDotted (packagePathPlain source) (by simp [packagePath]), length, if_pos (by omega)]
  · have kept : (packagePath parts).take (parts.length - (level - 1)) ≠ [] := by
      apply List.ne_nil_of_length_pos
      rw [List.length_take, length]
      omega
    simp only [targets, dottedConcat kept]
  · rintro sibling source' named' same i
    cases i with
    | modules listed => rfl
    | members from? dots listed =>
      simp only [Import.targets, packageOfFile source named, packageOfFile source' named', same]
  · intro own layer inner target reached
    rw [targets, List.mem_map] at reached
    obtain ⟨x, -, rfl⟩ := reached
    exact insideLayer layer (by omega) (by omega) x

end

theorem upFromPackageFile :
    ascend? 1 "secure_admin.domain.models" = some "secure_admin.domain" ∧
    (Import.members "" 2 ["errors", "events"]).targets (moduleAt ["domain", "models", "__init__.py"])
        (isPackageFile ["domain", "models", "__init__.py"]) =
      ["secure_admin.domain.errors", "secure_admin.domain.events"] ∧
    (Import.members "" 2 ["errors", "events"]).targets (moduleAt ["domain", "models", "record.py"])
        (isPackageFile ["domain", "models", "record.py"]) =
      ["secure_admin.domain.errors", "secure_admin.domain.events"] := by
  have source : SourcePath ["domain", "models", "__init__.py"] :=
    ⟨by decide, "__init__", by decide, by decide⟩
  have beside : SourcePath ["domain", "models", "record.py"] :=
    ⟨by decide, "record", by decide, by decide⟩
  have positive : 1 ≤ 2 := by decide
  obtain ⟨-, ⟨base, up, rfl, targets⟩, siblings, -⟩ :=
    relativeResolved source (by decide) positive (by decide) ⟨"", ["secure_admin"]⟩ ""
      ["errors", "events"]
  have written : (stated "" ["errors", "events"]).map (fun x =>
      dotted ((packagePath ["domain", "models", "__init__.py"]).take 2) ++ "." ++ x) =
        ["secure_admin.domain.errors", "secure_admin.domain.events"] := by decide
  refine ⟨?_, targets.trans written, ?_⟩
  · exact up
  · exact (siblings _ beside (by decide) rfl _).trans (targets.trans written)

end Handover.Layering

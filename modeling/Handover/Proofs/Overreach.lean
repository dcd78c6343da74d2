import Handover.Proofs.RelativeImport

/-!
Relative imports with more dots than lead to the top-level package. No package is named by them. The checker
finds none either with one dot too many, nor with dots for twice the way and more. In between its cut wraps
around, and the import is taken for one of the package: with dots for exactly twice the way for one from the
top, so that it is held against the rules.
-/
namespace Handover.Layering

def InPackage (target : String) : Prop :=
  target = packageName ∨ ∃ rest, target = packageName ++ "." ++ rest

/-- More dots than lead to the top-level package, and none of the words behind them starts at the package. -/
inductive Overreaches (parts : List String) (level : Nat) : Import → Prop
  | mk {origin : String} {names : List String} (beyond : parts.length < level)
    (foreign : ∀ x ∈ stated origin names, ¬ InPackage x) :
    Overreaches parts level (.members origin level names)

def Wraps (parts : List String) (level : Nat) : Prop :=
  parts.length + 1 < level ∧ level ≤ 2 * parts.length

theorem layerInPackage {m : Layer} {target : String} (covered : m.covers target = true) :
    InPackage target := by
  rcases Layer.coversIff.mp covered with rfl | ⟨rest, rfl⟩
  · exact Or.inr ⟨_, rfl⟩
  · exact Or.inr ⟨m.name ++ "." ++ rest, by simp only [String.append_assoc]⟩

theorem inPackageDotted (more : List String) : InPackage (dotted (packageName :: more)) := by
  cases more with
  | nil => exact Or.inl (by simp [dotted])
  | cons next rest => exact Or.inr ⟨_, dottedCons packageName (by simp)⟩

section
variable {parts : List String} {level : Nat}

def wrappedLength (parts : List String) (level : Nat) : Nat :=
  if level = parts.length + 1 then 0 else 2 * parts.length + 1 - level

theorem wrapsIff (beyond : parts.length < level) : Wraps parts level ↔ wrappedLength parts level ≠ 0 := by
  unfold Wraps wrappedLength
  split <;> omega

theorem overreachTargets (source : SourcePath parts) (named : parts.getLast? ≠ some ".py")
    (beyond : parts.length < level) (origin : String) (names : List String) :
    (Import.members origin level names).targets (moduleAt parts) (isPackageFile parts) =
      (stated origin names).map fun x =>
        dotted ((packagePath parts).take (wrappedLength parts level) ++ [x]) := by
  have cut : climb (packagePath parts) level =
      (packagePath parts).take (wrappedLength parts level) := by
    rw [climbTake, packagePathLength source, wrappedLength]
    congr 1
    split <;> split <;> omega
  rw [relativeTargets source named (by omega), cut]

theorem overreachInPackage (source : SourcePath parts) (named : parts.getLast? ≠ some ".py") {i : Import}
    (overreaches : Overreaches parts level i) {target : String}
    (reached : target ∈ i.targets (moduleAt parts) (isPackageFile parts)) :
    InPackage target ↔ Wraps parts level := by
  obtain ⟨beyond, foreign⟩ := overreaches
  rw [overreachTargets source named beyond, List.mem_map] at reached
  obtain ⟨x, inside, rfl⟩ := reached
  rw [wrapsIff beyond]
  cases wrappedLength parts level with
  | zero => simpa [dotted] using foreign x inside
  | succ kept =>
    have wrapped := inPackageDotted (parts.dropLast.take kept ++ [x])
    exact iff_of_true wrapped (by simp)

theorem overreachQuiet (source : SourcePath parts) (named : parts.getLast? ≠ some ".py") {own : Layer}
    (layer : fileLayer? parts = some own) {i : Import} (overreaches : Overreaches parts level i)
    (apart : ¬ (level = 2 * parts.length ∧ 1 < parts.length)) :
    breached own (i.targets (moduleAt parts) (isPackageFile parts)) = [] := by
  rw [breachedNone]
  intro target reached m covered
  have wraps := (overreachInPackage source named overreaches reached).mp (layerInPackage covered)
  obtain ⟨beyond, foreign⟩ := overreaches
  rw [overreachTargets source named beyond, List.mem_map] at reached
  obtain ⟨x, -, rfl⟩ := reached
  have deep : 2 ≤ wrappedLength parts level ∧ wrappedLength parts level ≤ parts.length := by
    unfold Wraps at wraps
    unfold wrappedLength
    split <;> omega
  have kept := insideLayer layer deep.1 deep.2 x
  rw [Layer.ofModuleCovers.mpr covered] at kept
  exact Or.inl (Option.some.inj kept)

theorem wrapTargets (source : SourcePath parts) (named : parts.getLast? ≠ some ".py")
    (folder : 1 < parts.length) (origin : String) (names : List String) :
    (Import.members origin (2 * parts.length : Nat) names).targets (moduleAt parts) (isPackageFile parts) =
      (stated origin names).map fun x => packageName ++ "." ++ x := by
  have top : wrappedLength parts (2 * parts.length) = 1 := by
    unfold wrappedLength
    split <;> omega
  rw [overreachTargets source named (by omega), top]
  simp [packagePath, dotted]

end

/-- An import with too many dots names no package. What the checker takes it for lies in the package just if
the dots wrap around. It is reported if they are for exactly twice the way, by the layer that its words name
from the top, and never otherwise. -/
theorem overreachVerdict {parts : List String} (source : SourcePath parts)
    (named : parts.getLast? ≠ some ".py") :
    (∀ (level : Nat) (i : Import), Overreaches parts level i →
      ascend? (level - 1) (dotted (packagePath parts)) = none ∧
      ∀ target ∈ i.targets (moduleAt parts) (isPackageFile parts),
        InPackage target ↔ Wraps parts level) ∧
    ∀ (own : Layer) (c : Content) (body : List Statement) (directory : Path),
      fileLayer? parts = some own → c.readable? = some body →
      ∃ found, scanEntry directory parts (.file c) = .ok found ∧
        (∀ n : Nat, (∀ i, (n, i) ∈ Statement.numbered body → ∃ level, Overreaches parts level i ∧
            ¬ (level = 2 * parts.length ∧ 1 < parts.length)) →
          ∀ v ∈ found.violations, v.line ≠ n) ∧
        ∀ (n : Nat) (origin : String) (names : List String) (m : Layer), 1 < parts.length → m ≠ own →
          (n, .members origin (2 * parts.length : Nat) names) ∈ Statement.numbered body →
          (∃ x ∈ stated origin names, m.covers (packageName ++ "." ++ x) = true) →
          (⟨(directory.child parts).text, n, breachMessage own m⟩ ∈ found.violations ↔
            m ∉ own.allowed) := by
  refine ⟨?_, ?_⟩
  · intro level i overreaches
    refine ⟨?_, fun target reached => overreachInPackage source named overreaches reached⟩
    obtain ⟨beyond, -⟩ := overreaches
    rw [ascendDotted (packagePathPlain source) (by simp [packagePath]), packagePathLength source,
      if_neg (by omega)]
  · intro own c body directory layer read
    let path := (directory.child parts).text
    refine ⟨⟨violationsIn path own (moduleAt parts) (isPackageFile parts) body, []⟩, ?_, ?_, ?_⟩
    · simp only [scanEntry, moduleLayer source, layer, read]
      rfl
    · rintro n overreaching v reported line
      obtain ⟨n', i, inside, same, forbidden⟩ := violationLine reported
      obtain rfl : n' = n := by exact_mod_cast same.symm.trans line
      obtain ⟨level, overreaches, apart⟩ := overreaching i inside
      exact forbidden (overreachQuiet source named layer overreaches apart)
    · rintro n origin names m folder other inside ⟨x, listed, covered⟩
      rw [violationIff]
      constructor
      · rintro ⟨_, -, forbidden⟩
        exact (breachedIff.mp forbidden).2.1
      · intro forbidden
        refine ⟨_, inside, breachedIff.mpr ⟨other, forbidden, _, ?_, covered⟩⟩
        rw [wrapTargets source named folder]
        exact List.mem_map_of_mem listed

theorem apiForeign : ¬ InPackage "api" := by
  rintro (own | ⟨rest, own⟩)
  · exact absurd own (by decide)
  · exact absurd (congrArg (List.head? ∘ String.toList) own) (by simp [packageName])

theorem oneTooMany :
    ascend? 2 "secure_admin.domain" = none ∧
    ∃ found, scanEntry ⟨"", ["secure_admin"]⟩ ["domain", "a.py"]
        (.file (.statements [.line [.members "api" 3 ["x"]]])) = .ok found ∧
      ∀ v ∈ found.violations, v.line ≠ 1 := by
  have source : SourcePath ["domain", "a.py"] := ⟨by decide, "a", by decide, by decide⟩
  have overreaches : Overreaches ["domain", "a.py"] 3 (.members "api" 3 ["x"]) :=
    .mk (by decide) (by simpa [stated] using apiForeign)
  obtain ⟨resolved, verdicts⟩ := overreachVerdict source (by decide)
  obtain ⟨found, scanned, quiet, -⟩ := verdicts .domain
    (.statements [.line [.members "api" 3 ["x"]]]) _ ⟨"", ["secure_admin"]⟩ (by decide) rfl
  refine ⟨(resolved 3 _ overreaches).1, found, scanned, quiet 1 ?_⟩
  intro i inside
  have own : i = .members "api" 3 ["x"] := by
    simpa [Statement.numbered, Statement.numberedFrom, Statement.linesOf, Statement.lines] using inside
  exact ⟨3, own ▸ overreaches, by decide⟩

/-- With one dot more the same import is reported, although it names no module of the package. -/
theorem twiceTheWay :
    Overreaches ["domain", "a.py"] 4 (.members "api" 4 ["x"]) ∧
    ascend? 3 "secure_admin.domain" = none ∧
    (Import.members "api" 4 ["x"]).targets (moduleAt ["domain", "a.py"]) false = ["secure_admin.api"] ∧
    scanEntry ⟨"", ["secure_admin"]⟩ ["domain", "a.py"]
        (.file (.statements [.line [.members "api" 4 ["x"]]])) =
      .ok ⟨[⟨"secure_admin/domain/a.py", 1, "domain layer cannot import from api"⟩], []⟩ := by
  refine ⟨.mk (by decide) (by simpa [stated] using apiForeign), by decide, ?_, ?_⟩
  · decide +kernel
  · decide +kernel

end Handover.Layering

import Handover.Proofs.ScanReport

/-!
Spellings of an import. A layer is reached by its dotted name, or by the dots that lead from a file to the
package and the name of the layer behind them. Each of these is held against the rules alike. A layer that
is named as a member of the package is not: the absolute import is taken for one of the package only.
-/
namespace Handover.Layering

inductive Reaches (dots : Nat) (m : Layer) : Import → Prop
  | modules {names : List String} {target : String} (listed : target ∈ names)
    (below : m.covers target = true) : Reaches dots m (.modules names)
  | absolute {source : String} {names : List String} (below : m.covers source = true) :
    Reaches dots m (.members source 0 names)
  | relative {source : String} {names : List String}
    (below : source = m.name ∨ ∃ rest, source = m.name ++ "." ++ rest) :
    Reaches dots m (.members source dots names)
  | bare {names : List String} (listed : m.name ∈ names) : Reaches dots m (.members "" dots names)

section
variable {parts : List String}

theorem packageOfFile (source : SourcePath parts) (named : parts.getLast? ≠ some ".py") :
    packageOf (moduleAt parts) (isPackageFile parts) = packageName :: parts.dropLast := by
  obtain ⟨folders, s, last, plain⟩ := source
  have kept : s ≠ "" := by
    rintro rfl
    exact named last
  have plainFolders : ∀ p ∈ packageName :: parts.dropLast, '.' ∉ p.toList := by
    simpa [packagePlain] using folders
  have ending : isPackageFile parts = (s == packageStem) := by
    have spelled : packageFile = packageStem ++ ".py" := by decide
    rw [Bool.eq_iff_iff]
    simp [isPackageFile, last, spelled]
  have path : modulePath parts =
      packageName :: (if s = packageStem then parts.dropLast else parts.dropLast ++ [s]) := by
    simp [modulePath, last, stemSource kept]
  rw [ending, moduleAt, path]
  by_cases package : s = packageStem
  · rw [if_pos package]
    simp [packageOf, package, componentsDotted plainFolders]
  · rw [if_neg package]
    have plainParts : ∀ p ∈ packageName :: (parts.dropLast ++ [s]), '.' ∉ p.toList := by
      simp only [← List.cons_append, List.mem_append, List.mem_singleton]
      rintro p (inside | rfl)
      · exact plainFolders p inside
      · exact plain
    have front : (packageName :: (parts.dropLast ++ [s])).dropLast = packageName :: parts.dropLast := by
      rw [← List.cons_append, List.dropLast_concat]
    simp [packageOf, package, componentsDotted plainParts, front]

theorem sourceNonempty (source : SourcePath parts) : parts ≠ [] := by
  rintro rfl
  obtain ⟨-, s, last, -⟩ := source
  cases last

theorem upTargets (source : SourcePath parts) (named : parts.getLast? ≠ some ".py") (origin : String)
    (names : List String) :
    (Import.members origin parts.length names).targets (moduleAt parts) (isPackageFile parts) =
      if origin = "" then names.map (packageName ++ "." ++ ·) else [packageName ++ "." ++ origin] := by
  have top : climb (packageOf (moduleAt parts) (isPackageFile parts)) parts.length = [packageName] := by
    have first : ((packageName :: parts.dropLast).length : Int) - (parts.length - 1) = 1 := by
      have some := List.length_pos_iff.mpr (sourceNonempty source)
      simp only [List.length_cons, List.length_dropLast]
      omega
    rw [packageOfFile source named, climb, first]
    rfl
  simp [Import.targets, top, below, dotted, sourceNonempty source]

theorem reachedTarget (source : SourcePath parts) (named : parts.getLast? ≠ some ".py") {m : Layer}
    {i : Import} (reached : Reaches parts.length m i) :
    ∃ target ∈ i.targets (moduleAt parts) (isPackageFile parts), m.covers target = true := by
  cases reached with
  | modules listed below => exact ⟨_, listed, below⟩
  | @absolute target names below =>
    -- no text without characters names a layer
    have some : target ≠ "" := by
      rintro rfl
      cases m <;> cases below
    exact ⟨target, by simp [Import.targets, some], below⟩
  | @relative target names below =>
    have some : target ≠ "" := by
      rintro rfl
      rcases below with own | ⟨rest, own⟩
      · cases m <;> exact absurd own (by decide)
      · simpa using congrArg String.toList own
    rw [upTargets source named, if_neg some]
    refine ⟨_, List.mem_singleton_self _, ?_⟩
    rw [Layer.coversIff]
    refine below.imp (fun own => by rw [own]) ?_
    rintro ⟨rest, rfl⟩
    exact ⟨rest, by simp only [String.append_assoc]⟩
  | @bare names listed =>
    rw [upTargets source named, if_pos rfl]
    exact ⟨_, List.mem_map_of_mem listed, Layer.coversIff.mpr (Or.inl rfl)⟩

end

section
variable {own m : Layer}

theorem messageInjective {l : Layer} (same : breachMessage own m = breachMessage own l) : m = l :=
  Layer.nameInjective (by simpa [breachMessage] using same)

theorem breachedIff {targets : List String} :
    m ∈ breached own targets ↔
      m ≠ own ∧ m ∉ own.allowed ∧ ∃ target ∈ targets, m.covers target = true := by
  simp only [breached, List.mem_flatMap, List.mem_filter, Bool.and_eq_true, decide_eq_true_eq]
  constructor
  · rintro ⟨target, inside, -, ⟨other, forbidden⟩, covered⟩
    exact ⟨other, forbidden, target, inside, covered⟩
  · rintro ⟨other, forbidden, target, inside, covered⟩
    exact ⟨target, inside, m.memberAll, ⟨other, forbidden⟩, covered⟩

theorem violationIff {path importer : String} {isPackage : Bool} {body : List Statement} {n : Nat} :
    ⟨path, n, breachMessage own m⟩ ∈ violationsIn path own importer isPackage body ↔
      ∃ i, (n, i) ∈ Statement.numbered body ∧ m ∈ breached own (i.targets importer isPackage) := by
  rw [(violationsPlaced path own importer isPackage body).mem_iff]
  simp only [breachesOf, List.mem_flatMap, List.mem_map, Violation.mk.injEq, Prod.exists]
  constructor
  · rintro ⟨n', i, inside, l, forbidden, -, line, message⟩
    obtain rfl : n' = n := by exact_mod_cast line
    obtain rfl := messageInjective message
    exact ⟨i, inside, forbidden⟩
  · rintro ⟨i, inside, forbidden⟩
    exact ⟨n, i, inside, m, forbidden, trivial, rfl, rfl⟩

theorem violationLine {path importer : String} {isPackage : Bool} {body : List Statement}
    {v : Violation} (reported : v ∈ violationsIn path own importer isPackage body) :
    ∃ n i, (n, i) ∈ Statement.numbered body ∧ v.line = n ∧
      breached own (i.targets importer isPackage) ≠ [] := by
  rw [(violationsPlaced path own importer isPackage body).mem_iff] at reported
  simp only [breachesOf, List.mem_flatMap, List.mem_map, Prod.exists] at reported
  obtain ⟨n, i, inside, l, forbidden, rfl⟩ := reported
  exact ⟨n, i, inside, rfl, List.ne_nil_of_mem forbidden⟩

theorem packageQuiet (importer : String) (isPackage : Bool) (names : List String) :
    breached own ((Import.members packageName 0 names).targets importer isPackage) = [] := by
  have targets : (Import.members packageName 0 names).targets importer isPackage = [packageName] := rfl
  rw [targets, breachedNone]
  intro target inside m covered
  obtain rfl := List.mem_singleton.mp inside
  cases m <;> cases covered

end

/-- A file reports an import of another layer on its line just if the rules forbid the layer, however the
layer is reached. The exception is a layer that is imported as a member of the package by its name: lines of
such imports report nothing. -/
theorem verdictBySpelling {parts : List String} (source : SourcePath parts)
    (named : parts.getLast? ≠ some ".py") {own : Layer} (layer : fileLayer? parts = some own)
    {c : Content} {body : List Statement} (read : c.readable? = some body) (directory : Path) :
    ∃ found, scanEntry directory parts (.file c) = .ok found ∧
      (∀ (m : Layer) (n : Nat) (i : Import), m ≠ own → (n, i) ∈ Statement.numbered body →
        Reaches parts.length m i →
        (⟨(directory.child parts).text, n, breachMessage own m⟩ ∈ found.violations ↔
          m ∉ own.allowed)) ∧
      ∀ n : Nat,
        (∀ i, (n, i) ∈ Statement.numbered body → ∃ names, i = .members packageName 0 names) →
        ∀ v ∈ found.violations, v.line ≠ n := by
  let path := (directory.child parts).text
  refine ⟨⟨violationsIn path own (moduleAt parts) (isPackageFile parts) body, []⟩, ?_, ?_, ?_⟩
  · simp only [scanEntry, moduleLayer source, layer, read]
    rfl
  · intro m n i other inside reached
    rw [violationIff]
    constructor
    · rintro ⟨_, -, forbidden⟩
      exact (breachedIff.mp forbidden).2.1
    · intro forbidden
      exact ⟨i, inside, breachedIff.mpr ⟨other, forbidden, reachedTarget source named reached⟩⟩
  · rintro n members v reported line
    obtain ⟨n', i, inside, same, forbidden⟩ := violationLine reported
    obtain rfl : n' = n := by exact_mod_cast same.symm.trans line
    obtain ⟨names, rfl⟩ := members i inside
    exact forbidden (packageQuiet _ _ names)

def importedTwice : List Statement :=
  [.line [.members "" 2 ["api"]], .line [.members "secure_admin" 0 ["api"]]]

theorem dotsReported :
    ∃ found, scanEntry ⟨"", ["secure_admin"]⟩ ["domain", "a.py"] (.file (.statements importedTwice)) =
        .ok found ∧
      ⟨"secure_admin/domain/a.py", 1, "domain layer cannot import from api"⟩ ∈ found.violations ∧
      ∀ v ∈ found.violations, v.line ≠ 2 := by
  have source : SourcePath ["domain", "a.py"] := ⟨by decide, "a", by decide, by decide⟩
  have read : (Content.statements importedTwice).readable? = some importedTwice := by rfl
  have layer : fileLayer? ["domain", "a.py"] = some .domain := by decide
  have first : (1, Import.members "" 2 ["api"]) ∈ Statement.numbered importedTwice := List.mem_cons_self
  obtain ⟨found, scanned, reported, quiet⟩ :=
    verdictBySpelling source (by decide) layer read ⟨"", ["secure_admin"]⟩
  refine ⟨found, scanned, ?_, quiet 2 ?_⟩
  · exact (reported .api 1 _ (by decide) first (.bare (by decide))).mpr (by decide)
  · intro i inside
    have own : i = .members "secure_admin" 0 ["api"] := by
      simpa [Statement.numbered, Statement.numberedFrom, Statement.linesOf, Statement.lines,
        importedTwice] using inside
    exact ⟨["api"], own⟩

/-- A member of the package by its name alone: the layer that it is goes unnoticed. -/
theorem memberUnreported :
    Layer.api ∉ Layer.domain.allowed ∧
      scanEntry ⟨"", ["secure_admin"]⟩ ["domain", "a.py"]
        (.file (.statements [.line [.members "" 2 ["api"]]])) =
          .ok ⟨[⟨"secure_admin/domain/a.py", 1, "domain layer cannot import from api"⟩], []⟩ ∧
      scanEntry ⟨"", ["secure_admin"]⟩ ["domain", "a.py"]
        (.file (.statements [.line [.members "secure_admin" 0 ["api"]]])) = .ok ⟨[], []⟩ := by
  refine ⟨by decide, by decide +kernel, by decide +kernel⟩

end Handover.Layering

import Mathlib.Data.List.Forall2
import Handover.Proofs.Belonging
import Handover.Proofs.SourceLine

/-!
The report of a scan. The source files of a package are taken in the order of their paths, part by part.
Each file of a layer adds one violation for every target of an import, wherever in the file it stands, whose
layer the rules forbid; one that does not read adds a warning, and nothing else is reported.
-/
namespace Handover.Layering

def breached (own : Layer) (targets : List String) : List Layer :=
  targets.flatMap fun target =>
    Layer.all.filter fun m => decide (m ≠ own ∧ m ∉ own.allowed) && m.covers target

theorem coveredFilter (p : Layer → Bool) (target : String) :
    Layer.all.filter (fun m => p m && m.covers target) = ((Layer.ofModule? target).filter p).toList := by
  rw [← List.filter_filter]
  cases found : Layer.ofModule? target with
  | none =>
    have nowhere : Layer.all.filter (fun m => m.covers target) = [] := by
      simp [← Layer.ofModuleCovers, found]
    simp [nowhere]
  | some l =>
    have here (m : Layer) : m.covers target = (l == m) := by
      rw [Bool.eq_iff_iff, ← Layer.ofModuleCovers, found]
      simp
    have alone : Layer.all.filter (fun m => m.covers target) = [l] := by
      simp only [here]
      cases l <;> decide
    rw [alone]
    cases allowed : p l <;> simp [Option.filter, allowed]

theorem breachesForbidden (own m : Layer) : own.breaches m = decide (m ≠ own ∧ m ∉ own.allowed) := by
  rw [Bool.eq_iff_iff]
  simp [Layer.breaches]

theorem breachesCovered (own : Layer) (targets : List String) :
    breaches own targets = breached own targets := by
  rw [breaches, List.filter_filterMap, List.filterMap_eq_flatMap_toList, breached]
  simp only [← breachesForbidden, coveredFilter]

def breachesOf (path : String) (own : Layer) (importer : String) (isPackage : Bool)
    (body : List Statement) : List Violation :=
  (Statement.numbered body).flatMap fun l =>
    (breached own (l.2.targets importer isPackage)).map fun m => ⟨path, l.1, breachMessage own m⟩

theorem violationsPlaced (path : String) (own : Layer) (importer : String) (isPackage : Bool)
    (body : List Statement) :
    (violationsIn path own importer isPackage body).Perm (breachesOf path own importer isPackage body) := by
  have placed := (Statement.walkPlaced body).flatMap_right fun l =>
    (breached own (l.2.targets importer isPackage)).map fun m =>
      Violation.mk path l.1 (breachMessage own m)
  simpa [violationsIn, breachesOf, breachesCovered, List.flatMap_map, Found.placed] using placed

def isPackageFile (parts : List String) : Bool := parts.getLast? == some packageFile

section
variable (directory : Path) (f : List String × Content)

def fileReport : List Violation :=
  match fileLayer? f.1, f.2.readable? with
  | some own, some body =>
    breachesOf (directory.child f.1).text own (moduleAt f.1) (isPackageFile f.1) body
  | _, _ => []

def fileWarning : List Warning :=
  match fileLayer? f.1, f.2.readable? with
  | some _, none => [.unreadable (directory.child f.1).text]
  | _, _ => []

end

theorem scanFile (directory : Path) {f : List String × Content} (source : SourcePath f.1) :
    ∃ vs, vs.Perm (fileReport directory f) ∧
      scanEntry directory f.1 (.file f.2) = .ok ⟨vs, fileWarning directory f⟩ := by
  unfold fileReport fileWarning scanEntry
  rw [moduleLayer source]
  cases fileLayer? f.1 with
  | none => exact ⟨[], .nil, rfl⟩
  | some own =>
    cases read : f.2.readable? with
    | none => exact ⟨[], .nil, by simp [read]⟩
    | some body => exact ⟨_, violationsPlaced _ own _ _ body, by simp [read, isPackageFile]⟩

def asEntry (f : List String × Content) : List String × Entry := (f.1, .file f.2)

theorem scanFiles (directory : Path) {files : List (List String × Content)}
    (sources : ∀ f ∈ files, SourcePath f.1) :
    ∃ blocks, List.Forall₂ List.Perm blocks (files.map (fileReport directory)) ∧
      scanAll directory (files.map asEntry) =
        .ok ⟨blocks.flatten, files.flatMap (fileWarning directory)⟩ := by
  induction files with
  | nil => exact ⟨[], .nil, rfl⟩
  | cons f files ih =>
    obtain ⟨source, others⟩ := List.forall_mem_cons.mp sources
    obtain ⟨vs, placed, first⟩ := scanFile directory source
    obtain ⟨blocks, rest, last⟩ := ih others
    refine ⟨vs :: blocks, .cons placed rest, ?_⟩
    simp only [scanAll, asEntry, List.map_cons, first, last]
    rfl

namespace Tree

theorem notAfterIff (a b : List String) : notAfter a b = true ↔ ¬ b < a := by
  induction a generalizing b with
  | nil => simp [notAfter]
  | cons p a ih =>
    cases b with
    | nil => simp [notAfter]
    | cons q b =>
      rw [List.cons_lt_cons_iff, notAfter]
      by_cases same : p = q
      · subst same
        simp [ih]
      · simp only [if_neg same, decide_eq_true_eq, Ne.symm same, false_and, or_false, String.not_lt]

theorem parentsInside {path d : List String} (above : d ∈ parents path) :
    ∃ part ∈ path.dropLast, d.getLast? = some part := by
  induction path generalizing d with
  | nil => cases above
  | cons first rest ih =>
    cases rest with
    | nil => cases above
    | cons next rest =>
      rw [List.dropLast_cons_cons]
      rcases List.mem_cons.mp above with rfl | deeper
      · exact ⟨first, by simp, rfl⟩
      · obtain ⟨d', above', rfl⟩ := List.mem_map.mp deeper
        obtain ⟨part, inside, last⟩ := ih above'
        exact ⟨part, by simp [inside], by simp [List.getLast?_cons, last]⟩

/-- A tree of one content a path, as it lies below a package: no folder is called like a source, and the
sources have no dots but those of their endings. -/
structure Tidy (t : Tree) (root : List String) : Prop where
  unique : (t.map Prod.fst).Nodup
  folders : ∀ f ∈ t.filesBelow root, ∀ d ∈ f.1.dropLast, isSource [d] = false
  sources : ∀ f ∈ t.filesBelow root, isSource f.1 = true → SourcePath f.1

variable {t : Tree} {root : List String}

theorem noSourceFolder (tidy : t.Tidy root) {d : List String} (above : d ∈ t.directoriesBelow root) :
    isSource d = false := by
  rw [directoriesBelow, List.mem_eraseDups, List.mem_flatMap] at above
  obtain ⟨f, inside, above⟩ := above
  obtain ⟨part, folder, last⟩ := parentsInside above
  have named := tidy.folders f inside part folder
  unfold isSource at named ⊢
  rw [last]
  exact named

def listing (t : Tree) (root : List String) : List (List String × Content) :=
  ((t.filesBelow root).filter fun f => isSource f.1).mergeSort fun f g => notAfter f.1 g.1

theorem sourcesListed (tidy : t.Tidy root) : t.sources root = (t.listing root).map asEntry := by
  have none : ((t.directoriesBelow root).map fun d => (d, Entry.directory)).filter
      (fun e => isSource e.1) = [] := by
    simp only [List.filter_eq_nil_iff, List.mem_map]
    rintro e ⟨d, above, rfl⟩
    simp [noSourceFolder tidy above]
  have files : ((t.filesBelow root).map fun f => (f.1, Entry.file f.2)).filter (fun e => isSource e.1) =
      ((t.filesBelow root).filter fun f => isSource f.1).map asEntry := by
    rw [List.filter_map]
    rfl
  rw [sources, listing, List.filter_append, none, List.append_nil, files]
  exact (List.map_mergeSort (f := asEntry) fun f _ g _ => rfl).symm

theorem listingPerm (t : Tree) (root : List String) :
    (t.listing root).Perm ((t.filesBelow root).filter fun f => isSource f.1) := List.mergeSort_perm _ _

theorem belowUnique (unique : (t.map Prod.fst).Nodup) :
    (t.filesBelow root).Pairwise fun f g => f.1 ≠ g.1 := by
  have apart : t.Pairwise fun f g => f.1 ≠ g.1 := List.pairwise_map.mp unique
  refine apart.filterMap _ ?_
  intro f g other f' left g' right same
  split at left <;> cases left
  split at right <;> cases right
  rename_i path _ _ _ path'
  rw [List.isPrefixOf?_eq_some_iff_append_eq] at path path'
  exact other (path.symm.trans ((congrArg (root ++ ·) same).trans path'))

theorem listingOrder (unique : (t.map Prod.fst).Nodup) :
    (t.listing root).Pairwise fun f g => f.1 < g.1 := by
  have ordered : (t.listing root).Pairwise fun f g => notAfter f.1 g.1 = true := by
    refine List.pairwise_mergeSort ?_ ?_ _
    · intro f g h first next
      rw [notAfterIff] at first next ⊢
      exact List.le_trans first next
    · intro f g
      rw [Bool.or_eq_true, notAfterIff, notAfterIff]
      exact List.le_total f.1 g.1
  have apart : (t.listing root).Pairwise fun f g => f.1 ≠ g.1 :=
    ((t.listingPerm root).pairwise_iff fun apart => Ne.symm apart).mpr ((belowUnique unique).filter _)
  refine (ordered.and apart).imp fun both => ?_
  rw [notAfterIff] at both
  exact (List.le_iff_lt_or_eq.mp (List.not_lt.mp both.1)).resolve_right both.2

end Tree

def Clean (f : List String × Content) : Prop :=
  ∀ own, fileLayer? f.1 = some own → ∃ body, f.2.readable? = some body ∧
    ∀ l ∈ Statement.numbered body, ∀ target ∈ l.2.targets (moduleAt f.1) (isPackageFile f.1),
      ∀ m : Layer, m.covers target = true → m = own ∨ m ∈ own.allowed

theorem breachedNone (own : Layer) (targets : List String) :
    breached own targets = [] ↔
      ∀ target ∈ targets, ∀ m : Layer, m.covers target = true → m = own ∨ m ∈ own.allowed := by
  have kept (target : String) (m : Layer) :
      ¬ (decide (m ≠ own ∧ m ∉ own.allowed) && m.covers target) = true ↔
        (m.covers target = true → m = own ∨ m ∈ own.allowed) := by
    grind
  simp only [breached, List.flatMap_eq_nil_iff, List.filter_eq_nil_iff, kept, Layer.memberAll,
    forall_const]

theorem cleanIff (directory : Path) (f : List String × Content) :
    Clean f ↔ fileReport directory f = [] ∧ fileWarning directory f = [] := by
  unfold Clean fileReport fileWarning
  cases fileLayer? f.1 with
  | none => simp
  | some own =>
    cases f.2.readable? with
    | none => simp
    | some body =>
      simp [breachesOf, List.flatMap_eq_nil_iff, breachedNone]

theorem flattenPerm {α : Type} {xs ys : List (List α)} (alike : List.Forall₂ List.Perm xs ys) :
    xs.flatten.Perm ys.flatten := by
  induction alike with
  | nil => exact .nil
  | cons first _ ih => exact first.append ih

/-- A scan goes through the source files of the package in the order of their paths. A file of a layer that
reads adds one violation for every target of every import of its lines that is of a forbidden layer, one
that does not read adds one warning, and no other file adds anything. The exit code tells whether there is
a violation; it is zero without a warning just if every file is clean. -/
theorem scanReports {t : Tree} {rooted : Bool} {directory : Path} {root : List String}
    (placed : t.locate? rooted directory = some root) (tidy : t.Tidy root) :
    ∃ (files : List (List String × Content)) (blocks : List (List Violation)) (found : Findings),
      t.scan directory rooted = .ok found ∧
      files.Perm ((t.filesBelow root).filter fun f => Tree.isSource f.1) ∧
      files.Pairwise (fun f g => f.1 < g.1) ∧
      List.Forall₂ List.Perm blocks (files.map (fileReport directory)) ∧
      found.violations = blocks.flatten ∧
      found.warnings = files.flatMap (fileWarning directory) ∧
      (found.exitCode = 1 ↔ found.violations ≠ []) ∧ (found.exitCode = 0 ↔ found.violations = []) ∧
      (found.exitCode = 0 ∧ found.warnings = [] ↔
        ∀ f ∈ t.filesBelow root, Tree.isSource f.1 = true → Clean f) := by
  have listed (f : List String × Content) :
      f ∈ t.listing root ↔ f ∈ t.filesBelow root ∧ Tree.isSource f.1 = true :=
    (t.listingPerm root).mem_iff.trans List.mem_filter
  have sources : ∀ f ∈ t.listing root, SourcePath f.1 := fun f inside =>
    tidy.sources f ((listed f).mp inside).1 ((listed f).mp inside).2
  obtain ⟨blocks, reported, scanned⟩ := scanFiles directory sources
  have exits (found : Findings) : (found.exitCode = 1 ↔ found.violations ≠ []) ∧
      (found.exitCode = 0 ↔ found.violations = []) := by
    cases none : found.violations <;> simp [Findings.exitCode, none]
  refine ⟨t.listing root, blocks, ⟨blocks.flatten, (t.listing root).flatMap (fileWarning directory)⟩,
    ?_, t.listingPerm root, Tree.listingOrder tidy.unique, reported, rfl, rfl, (exits _).1, (exits _).2,
    ?_⟩
  · simp only [Tree.scan, placed, Tree.sourcesListed tidy, scanned]
  · have nothing : blocks.flatten = [] ↔ ∀ f ∈ t.listing root, fileReport directory f = [] := by
      rw [← List.isEmpty_iff, (flattenPerm reported).isEmpty_eq, List.isEmpty_iff]
      simp only [List.flatten_eq_nil_iff, List.forall_mem_map]
    rw [(exits _).2, nothing, List.flatMap_eq_nil_iff, ← forall₂_and]
    simp only [← cleanIff, listed, and_imp]

def mixedTree : Tree :=
  [(["secure_admin", "domain", "a.py"],
      .statements [.gap 1, .block [.line [.modules ["re", "secure_admin.api.models"]]]]),
    (["secure_admin", "api", "b.py"], .garbled)]

theorem mixedTidy : mixedTree.Tidy ["secure_admin"] where
  unique := by decide
  folders := by decide
  sources := by
    intro f inside _
    rcases List.mem_cons.mp inside with rfl | inside
    · exact ⟨by decide, "a", by decide, by decide⟩
    · obtain rfl := List.mem_singleton.mp inside
      exact ⟨by decide, "b", by decide, by decide⟩

theorem mixedReported :
    ∃ found, mixedTree.scan ⟨"", ["secure_admin"]⟩ = .ok found ∧
      ¬ (found.exitCode = 0 ∧ found.warnings = []) := by
  have placed : mixedTree.locate? false ⟨"", ["secure_admin"]⟩ = some ["secure_admin"] := by decide
  obtain ⟨files, blocks, found, scanned, -, -, -, -, -, -, -, clean⟩ := scanReports placed mixedTidy
  refine ⟨found, scanned, fun quiet => ?_⟩
  have inside : (["api", "b.py"], Content.garbled) ∈ mixedTree.filesBelow ["secure_admin"] :=
    List.mem_cons_of_mem _ List.mem_cons_self
  obtain ⟨body, read, -⟩ := clean.mp quiet _ inside (by decide) .api (by decide)
  cases read

end Handover.Layering

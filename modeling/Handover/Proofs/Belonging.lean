import Mathlib.Data.List.TakeDrop
import Handover.Layering.Scan

/-!
What belongs to a layer. A module does if it is the subpackage of the layer or lies below it, and a file
does by the first part of its path, or by its own name if it lies in the package itself. What the checker
reads off the dotted names agrees with both as long as no part of a path has a dot of its own.
-/
namespace Handover.Layering

theorem componentsPlain {s : String} (plain : '.' ∉ s.toList) : components s = [s] := by
  simp [components, List.splitOn_eq_singleton plain]

theorem componentsCons {p : String} (plain : '.' ∉ p.toList) (rest : String) :
    components (p ++ "." ++ rest) = p :: components rest := by
  simp [components, List.splitOn_append_cons_self_of_not_mem plain]

theorem dottedCons (p : String) {rest : List String} (more : rest ≠ []) :
    dotted (p :: rest) = p ++ "." ++ dotted rest := by
  apply String.toList_inj.1
  cases rest with
  | nil => exact (more rfl).elim
  | cons q rest => simp [dotted, List.intercalate]

theorem componentsDottedCons {p : String} (plain : '.' ∉ p.toList) {rest : List String}
    (more : rest ≠ []) : components (dotted (p :: rest)) = p :: components (dotted rest) := by
  rw [dottedCons p more, componentsCons plain]

theorem packagePlain : '.' ∉ packageName.toList := by decide

namespace Layer

variable {m : Layer} {target : String}

def covers (m : Layer) (target : String) : Bool :=
  let subpackage := packageName ++ "." ++ m.name
  target == subpackage || (subpackage ++ ".").toList.isPrefixOf target.toList

theorem namePlain (m : Layer) : '.' ∉ m.name.toList := by cases m <;> decide

theorem nameInjective {m l : Layer} (same : m.name = l.name) : m = l := by
  cases m <;> cases l <;> first | rfl | (exact absurd same (by decide))

theorem memberAll (m : Layer) : m ∈ all := by cases m <;> decide

theorem ofNameIff {s : String} : ofName? s = some m ↔ s = m.name := by
  constructor
  · intro found
    have named := List.find?_some found
    exact (eq_of_beq named).symm
  · rintro rfl
    exact ofNameOwn m

theorem coversIff : m.covers target = true ↔
    target = packageName ++ "." ++ m.name ∨
      ∃ rest, target = packageName ++ "." ++ m.name ++ "." ++ rest := by
  simp only [covers, Bool.or_eq_true, beq_iff_eq, List.isPrefixOf_iff_prefix]
  refine or_congr_right ⟨?_, ?_⟩
  · rintro ⟨rest, spelled⟩
    refine ⟨String.ofList rest, String.toList_inj.1 ?_⟩
    simpa using spelled.symm
  · rintro ⟨rest, rfl⟩
    exact ⟨rest.toList, by simp⟩

theorem ofModuleCovers : ofModule? target = some m ↔ m.covers target = true := by
  rw [coversIff]
  constructor
  · intro found
    have spelled := dottedComponents target
    unfold ofModule? ofComponents? at found
    split at found
    · rename_i package second more parted
      split at found <;> try contradiction
      rename_i own
      rw [ofNameIff] at found
      subst own found
      rw [parted] at spelled
      cases more with
      | nil =>
        rw [dottedCons _ (by simp)] at spelled
        exact Or.inl (by simpa [dotted] using spelled.symm)
      | cons next more =>
        rw [dottedCons _ (by simp), dottedCons _ (by simp)] at spelled
        refine Or.inr ⟨dotted (next :: more), ?_⟩
        rw [← spelled, ← String.append_assoc, ← String.append_assoc]
    · cases found
  · rintro (rfl | ⟨rest, rfl⟩)
    · rw [ofModule?, componentsCons packagePlain, componentsPlain m.namePlain]
      simp [ofComponents?, ofNameOwn]
    · rw [ofModule?, String.append_assoc, String.append_assoc, String.append_assoc,
        ← String.append_assoc, componentsCons packagePlain, ← String.append_assoc,
        componentsCons m.namePlain]
      simp [ofComponents?, ofNameOwn]

end Layer

structure SourcePath (parts : List String) : Prop where
  folders : ∀ d ∈ parts.dropLast, '.' ∉ d.toList
  file : ∃ s, parts.getLast? = some (s ++ ".py") ∧ '.' ∉ s.toList

def fileLayer? : List String → Option Layer
  | [] => none
  | [file] => Layer.all.find? fun l => l.name ++ ".py" == file
  | folder :: _ => Layer.ofName? folder

theorem stemSource {s : String} (named : s ≠ "") : stem (s ++ ".py") = s := by
  have ending : (s ++ ".py").toList.reverse.span (· != '.') = (['y', 'p'], '.' :: s.toList.reverse) := by
    simp [List.span, List.span.loop]
  have kept : s.toList.reverse.isEmpty = false := by simpa using named
  rw [stem, ending]
  simp [kept]

theorem moduleOfFile {s : String} (named : s ≠ "") (ordinary : s ≠ packageStem) :
    modulePath [s ++ ".py"] = [packageName, s] := by
  simp [modulePath, stemSource named, ordinary]

theorem moduleInFolder (folder next : String) (rest : List String) :
    ∃ more, modulePath (folder :: next :: rest) = packageName :: folder :: more := by
  have inside : (next :: rest).dropLast ++ ((folder :: next :: rest).getLast?.map stem).toList ≠ [] := by
    simp
  simp only [modulePath, List.dropLast_cons_cons, List.cons_append]
  split
  · exact ⟨_, by rw [List.dropLast_cons_of_ne_nil inside]⟩
  · exact ⟨_, rfl⟩

theorem ofComponentsOwn (second : String) (more : List String) :
    Layer.ofComponents? (packageName :: second :: more) = Layer.ofName? second := by
  simp [Layer.ofComponents?]

theorem moduleLayer {parts : List String} (source : SourcePath parts) :
    Layer.ofModule? (moduleAt parts) = fileLayer? parts := by
  obtain ⟨folders, s, last, plain⟩ := source
  cases parts with
  | nil => cases last
  | cons first rest =>
    cases rest with
    | nil =>
      obtain rfl : first = s ++ ".py" := Option.some.inj last
      by_cases bare : s = ""
      · subst bare
        decide
      by_cases package : s = packageStem
      · subst package
        decide
      have ending (l : Layer) : (l.name ++ ".py" == s ++ ".py") = (l.name == s) := by
        rw [Bool.eq_iff_iff]
        simp
      rw [Layer.ofModule?, moduleAt, moduleOfFile bare package,
        componentsDottedCons packagePlain (by simp)]
      simp [dotted, componentsPlain plain, ofComponentsOwn, fileLayer?, Layer.ofName?, ending]
    | cons next rest =>
      have plainFirst : '.' ∉ first.toList := folders first (by simp)
      obtain ⟨more, path⟩ := moduleInFolder first next rest
      rw [Layer.ofModule?, moduleAt, path, componentsDottedCons packagePlain (by simp)]
      cases more with
      | nil => simp [dotted, componentsPlain plainFirst, ofComponentsOwn, fileLayer?]
      | cons second more =>
        rw [componentsDottedCons plainFirst (by simp), ofComponentsOwn, fileLayer?]
        simp

end Handover.Layering

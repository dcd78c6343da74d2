import Mathlib.Data.Prod.Lex
import Mathlib.Data.String.Basic
import Handover.Proofs.SourceOrder

/-!
The report of violations. Its text depends on what the violations are and not on the order in which they
come: between two blank lines it has one line for each, and these stand by path, line and message. So the
report of one file goes down the file, however its violations were found.
-/
namespace Handover.Layering

def codes (s : String) : List Nat := s.toList.map Char.toNat

theorem codesLess {s t : String} : codes s < codes t ↔ s < t := by
  have each (l m : List Char) : l.map Char.toNat < m.map Char.toNat ↔ l < m := by
    induction l generalizing m with
    | nil => cases m <;> simp
    | cons c l ih =>
      cases m with
      | nil => simp
      | cons d m =>
        have same : c.toNat = d.toNat ↔ c = d := Char.toNat_inj
        rw [List.map_cons, List.map_cons, List.cons_lt_cons_iff, List.cons_lt_cons_iff, ih, same]
        rfl
  rw [String.lt_iff_toList_lt]
  exact each s.toList t.toList

def linesOf (text : String) : List String := (text.toList.splitOn '\n').map String.ofList

theorem digitsUnbroken (n : Nat) : '\n' ∉ Nat.toDigits 10 n := by
  intro inside
  have digit := Nat.isDigit_of_mem_toDigits (by decide) (by decide) inside
  exact absurd digit (by decide)

theorem numberUnbroken (n : Int) : '\n' ∉ n.repr.toList := by
  rw [Int.repr_eq_if]
  split <;> simp [digitsUnbroken]

namespace Violation

def NotAfter (a b : Violation) : Prop :=
  codes a.path < codes b.path ∨ a.path = b.path ∧
    (a.line < b.line ∨ a.line = b.line ∧
      (codes a.message < codes b.message ∨ a.message = b.message))

instance (a b : Violation) : Decidable (a.NotAfter b) :=
  inferInstanceAs (Decidable (_ ∨ _ ∧ (_ ∨ _ ∧ (_ ∨ _))))

structure Unbroken (v : Violation) : Prop where
  path : '\n' ∉ v.path.toList
  message : '\n' ∉ v.message.toList

def key (v : Violation) : String ×ₗ Int ×ₗ String := toLex (v.path, toLex (v.line, v.message))

def listed (vs : List Violation) : List Violation := vs.mergeSort before

def frame (count : Nat) (rows : List String) : List String :=
  ["Import boundary violations found:", ""] ++ rows ++
    ["", "Total: " ++ toString count ++ " violation(s)"]

variable {a b : Violation} {us vs : List Violation}

theorem keyInjective (same : a.key = b.key) : a = b := by
  obtain ⟨path, line, message⟩ := a
  cases same
  rfl

theorem notAfterKey : a.NotAfter b ↔ a.key ≤ b.key := by
  simp only [NotAfter, codesLess, key, Prod.Lex.toLex_le_toLex, le_iff_lt_or_eq (a := a.message)]

theorem beforeKey : before a b = true ↔ a.key ≤ b.key := by
  simp only [before, key, Prod.Lex.toLex_le_toLex, Bool.or_eq_true, Bool.and_eq_true, decide_eq_true_eq,
    beq_iff_eq]

theorem notAfterBoth (first : a.NotAfter b) (next : b.NotAfter a) : a = b :=
  keyInjective (le_antisymm (notAfterKey.mp first) (notAfterKey.mp next))

theorem listedPerm (vs : List Violation) : (listed vs).Perm vs := List.mergeSort_perm vs before

theorem listedOrder (vs : List Violation) : (listed vs).Pairwise NotAfter := by
  have ordered : (listed vs).Pairwise fun a b => before a b = true := by
    refine List.pairwise_mergeSort ?_ ?_ vs
    · intro a b c first next
      exact beforeKey.mpr (le_trans (beforeKey.mp first) (beforeKey.mp next))
    · intro a b
      simpa only [Bool.or_eq_true, beforeKey] using le_total a.key b.key
  exact ordered.imp fun first => notAfterKey.mpr (beforeKey.mp first)

theorem orderedOnce (first : us.Pairwise NotAfter) (next : vs.Pairwise NotAfter) (same : us.Perm vs) :
    us = vs :=
  List.Perm.eq_of_pairwise (fun _ _ _ _ => notAfterBoth) first next same

theorem reportAnyOrder (same : us.Perm vs) : report us = report vs := by
  have perm := (listedPerm us).trans (same.trans (listedPerm vs).symm)
  have listing : us.mergeSort before = vs.mergeSort before :=
    orderedOnce (listedOrder us) (listedOrder vs) perm
  rw [report, report, reportLines, reportLines, listing, same.length_eq, same.isEmpty_eq]

theorem rowUnbroken (unbroken : a.Unbroken) : '\n' ∉ a.row.toList := by
  simp [row, unbroken.path, unbroken.message, numberUnbroken]

theorem rowNotBlank (v : Violation) : v.row ≠ "" := by
  intro blank
  have none := congrArg String.toList blank
  simp [row] at none

theorem frameUnbroken (count : Nat) {rows : List String} (unbroken : ∀ l ∈ rows, '\n' ∉ l.toList) :
    ∀ l ∈ frame count rows, '\n' ∉ l.toList := by
  have total : '\n' ∉ ("Total: " ++ toString count ++ " violation(s)").toList := by
    simp [digitsUnbroken]
  simp only [frame, List.forall_mem_append, List.forall_mem_cons]
  exact ⟨⟨⟨by decide, by decide, by simp⟩, unbroken⟩, by decide, total, by simp⟩

theorem reportFramed (some : vs ≠ []) (unbroken : ∀ v ∈ vs, v.Unbroken) :
    linesOf (report vs) = frame vs.length ((listed vs).map row) := by
  have rows : ∀ l ∈ (listed vs).map row, '\n' ∉ l.toList := by
    refine List.forall_mem_map.mpr fun v member => ?_
    exact rowUnbroken (unbroken v ((listedPerm vs).mem_iff.mp member))
  rw [report, if_neg (by simpa using some)]
  exact splitJoined rfl (frameUnbroken vs.length rows) (List.cons_ne_nil _ _)

theorem listedLines {path : String} (own : ∀ v ∈ vs, v.path = path) :
    (listed vs).Pairwise fun a b => a.line ≤ b.line := by
  refine (listedOrder vs).imp_of_mem fun {a b} first next order => ?_
  have same : a.path = b.path := by
    rw [own a ((listedPerm vs).mem_iff.mp first), own b ((listedPerm vs).mem_iff.mp next)]
  rcases order with earlier | ⟨-, above | ⟨level, -⟩⟩
  · rw [same] at earlier
    exact absurd earlier (List.lt_irrefl _)
  · exact Int.le_of_lt above
  · exact Int.le_of_eq level

end Violation

theorem breachUnbroken (own target : Layer) : '\n' ∉ (breachMessage own target).toList := by
  have name (l : Layer) : '\n' ∉ l.name.toList := by cases l <;> decide
  simp [breachMessage, name]

theorem reportedUnbroken {path : String} {own : Option Layer} {ms : List Mention}
    (plain : '\n' ∉ path.toList) :
    ∀ v ∈ ms.flatMap (Mention.violations path own), v.path = path ∧ v.Unbroken := by
  intro v member
  obtain ⟨m, -, reported⟩ := List.mem_flatMap.mp member
  cases own with
  | none => cases reported
  | some own =>
    obtain ⟨l, -, rfl⟩ := List.mem_map.mp reported
    exact ⟨rfl, plain, breachUnbroken own l⟩

open Violation in
/-- The report of some violations is the report of any arrangement of them. Its lines between the blank ones
are those of the violations, as many as there are, in the one order that path, line and message give them.
For the violations of a file this is the order of their lines, though they are found depth by depth. -/
theorem reportInOrder :
    (∀ us vs : List Violation, us.Perm vs → report us = report vs) ∧
    (∀ vs : List Violation, vs ≠ [] → (∀ v ∈ vs, v.Unbroken) →
      ∃ sorted : List Violation, sorted.Perm vs ∧ sorted.Pairwise NotAfter ∧
        linesOf (report vs) = frame vs.length (sorted.map row) ∧ ∀ l ∈ sorted.map row, l ≠ "") ∧
    ∀ (directory : Path) (parts : List String) (body : List Statement),
      '\n' ∉ (directory.child parts).text.toList →
      ∃ (walked : List Mention) (found : Findings) (sorted : List Violation),
        walked.Perm (mentionsIn (Import.targets (moduleAt parts) (isPackageFile parts)) 1 0 body) ∧
        walked.Pairwise Mention.Sooner ∧
        scanEntry directory parts (.file (.statements body)) = .ok found ∧
        found.violations = (if Statement.areReadable depthLimit body then
          walked.flatMap (Mention.violations (directory.child parts).text (Layer.ofModule? (moduleAt parts)))
          else []) ∧
        sorted.Perm found.violations ∧ (sorted.Pairwise fun a b => a.line ≤ b.line) ∧
        (found.violations ≠ [] →
          linesOf (report found.violations) = frame found.violations.length (sorted.map row)) := by
  refine ⟨fun us vs => reportAnyOrder, fun vs some unbroken => ?_, fun directory parts body plain => ?_⟩
  · refine ⟨listed vs, listedPerm vs, listedOrder vs, reportFramed some unbroken, ?_⟩
    exact List.forall_mem_map.mpr fun v _ => rowNotBlank v
  · let targets := Import.targets (moduleAt parts) (isPackageFile parts)
    obtain ⟨found, scanned, reported⟩ := scanBody directory parts body
    have own : ∀ v ∈ found.violations, v.path = (directory.child parts).text ∧ v.Unbroken := by
      rw [reported]
      split
      · exact reportedUnbroken plain
      · simp
    exact ⟨visited targets body, found, listed found.violations, visitedPerm targets body,
      visitedSooner targets body, scanned, reported, listedPerm _,
      listedLines fun v inside => (own v inside).1,
      fun some => reportFramed some fun v inside => (own v inside).2⟩

def breachAt (line : Int) : Violation :=
  ⟨"secure_admin/domain/a.py", line, "domain layer cannot import from api"⟩

open Violation in
theorem nineBeforeTen :
    report [breachAt 10, breachAt 9, breachAt 9] = report [breachAt 9, breachAt 10, breachAt 9] ∧
    linesOf (report [breachAt 10, breachAt 9, breachAt 9]) =
      frame 3 [(breachAt 9).row, (breachAt 9).row, (breachAt 10).row] ∧
    ∃ (found : Findings) (sorted : List Violation),
      scanEntry ⟨"", ["secure_admin"]⟩ ["domain", "a.py"] (.file (.statements
        [.block [.line [.modules ["secure_admin.api"]]],
          .line [.modules ["secure_admin.api"]]])) = .ok found ∧
      sorted.Perm found.violations ∧ sorted.Pairwise fun a b => a.line ≤ b.line := by
  obtain ⟨alike, ordered, files⟩ := reportInOrder
  have plain : '\n' ∉ "secure_admin/domain/a.py".toList := by decide
  have unbroken (line : Int) : (breachAt line).Unbroken := ⟨plain, breachUnbroken .domain .api⟩
  obtain ⟨sorted, same, order, lines, -⟩ := ordered [breachAt 10, breachAt 9, breachAt 9] (by decide)
    (by simp [unbroken])
  obtain rfl : sorted = [breachAt 9, breachAt 9, breachAt 10] :=
    orderedOnce order (by decide) (same.trans (by decide))
  obtain ⟨-, found, sorted, -, -, scanned, -, perm, rows, -⟩ :=
    files ⟨"", ["secure_admin"]⟩ ["domain", "a.py"]
    [.block [.line [.modules ["secure_admin.api"]]], .line [.modules ["secure_admin.api"]]] (by decide)
  exact ⟨alike _ _ (by decide), lines, found, sorted, scanned, perm, rows⟩

end Handover.Layering

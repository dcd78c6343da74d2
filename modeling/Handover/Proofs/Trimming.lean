import Mathlib.Data.List.TakeWhile
import Handover.Text.Integer

/-!
Trimming at both ends. What is left of a list after trimming stands between members of the class that is
trimmed, and has none of them at its own ends; nothing else does.
-/
namespace Handover.Text

section
variable {α : Type} {p : α → Bool} {l core : List α}

theorem dropsNothing : l.dropWhile p = l ↔ ∀ c, l.head? = some c → p c = false := by
  cases l with
  | nil => simp
  | cons c l => simp

theorem headDropped {c : α} (first : (l.dropWhile p).head? = some c) : p c = false := by
  have kept := List.head?_dropWhile_not p l
  rw [first] at kept
  simpa using kept

structure Trims (p : α → Bool) (l core : List α) : Prop where
  whole : ∃ before after, l = before ++ (core ++ after) ∧
    (∀ c ∈ before, p c = true) ∧ ∀ c ∈ after, p c = true
  first : ∀ c, core.head? = some c → p c = false
  last : ∀ c, core.getLast? = some c → p c = false

theorem trimListTrims (p : α → Bool) (l : List α) : Trims p l (trimList p l) := by
  let rest := l.dropWhile p
  have split : rest = trimList p l ++ (rest.reverse.takeWhile p).reverse := by
    rw [trimList, ← List.reverse_append, List.takeWhile_append_dropWhile, List.reverse_reverse]
  refine ⟨⟨l.takeWhile p, (rest.reverse.takeWhile p).reverse, ?_, ?_, ?_⟩, ?_, ?_⟩
  · rw [← split, List.takeWhile_append_dropWhile]
  · intro c inside
    exact List.mem_takeWhile_imp inside
  · intro c inside
    exact List.mem_takeWhile_imp (List.mem_reverse.mp inside)
  · intro c first
    refine headDropped (l := l) ?_
    change rest.head? = some c
    rw [split, List.head?_append, first]
    rfl
  · intro c last
    rw [trimList, List.getLast?_reverse] at last
    exact headDropped last

theorem trimListOf (trims : Trims p l core) : trimList p l = core := by
  obtain ⟨⟨before, after, rfl, blank, blank'⟩, first, last⟩ := trims
  rw [trimList, List.dropWhile_append_of_pos blank]
  cases core with
  | nil => simp [List.dropWhile_eq_nil_iff.mpr blank']
  | cons c core =>
    have front : (c :: core ++ after).dropWhile p = c :: core ++ after :=
      dropsNothing.mpr (by simpa using first)
    have back : (c :: core).reverse.dropWhile p = (c :: core).reverse :=
      dropsNothing.mpr (by simpa only [List.head?_reverse] using last)
    rw [front, List.reverse_append, List.dropWhile_append_of_pos (by simpa using blank'), back,
      List.reverse_reverse]

theorem trimListIff : trimList p l = core ↔ Trims p l core :=
  ⟨fun same => same ▸ trimListTrims p l, trimListOf⟩

theorem trimListOwn : trimList p l = l ↔
    (∀ c, l.head? = some c → p c = false) ∧ ∀ c, l.getLast? = some c → p c = false := by
  rw [trimListIff]
  constructor
  · rintro ⟨-, first, last⟩
    exact ⟨first, last⟩
  · rintro ⟨first, last⟩
    exact ⟨⟨[], [], by simp⟩, first, last⟩

end

theorem trimIff {s t : String} : trim s = t ↔ Trims isBlank s.toList t.toList := by
  rw [← trimListIff, trim, ← String.toList_inj, String.toList_ofList]

theorem trimmedIff {s : String} : isTrimmed s = true ↔
    ∀ c, s.toList.head? = some c ∨ s.toList.getLast? = some c → isBlank c = false := by
  rw [isTrimmed, beq_iff_eq, trimIff, ← trimListIff, trimListOwn]
  simp only [or_imp, forall_and]

end Handover.Text

import Mathlib.Data.List.Basic

/-!
Sorting by a key. A list sorted by a key is determined by what stands under each key, and sorting leaves
what stands under one key in its order. So a sorted list is the outcome of sorting whatever agrees with it key
by key.
-/
namespace Handover.Layering

section
variable {α : Type} (key : α → Int)

theorem keyTrans (a b c : α) (first : decide (key a ≤ key b) = true)
    (next : decide (key b ≤ key c) = true) : decide (key a ≤ key c) = true :=
  decide_eq_true (Int.le_trans (of_decide_eq_true first) (of_decide_eq_true next))

theorem keyTotal (a b : α) : (decide (key a ≤ key b) || decide (key b ≤ key a)) = true := by
  simpa using Int.le_total (key a) (key b)

theorem sortedUnique {s t : List α} (sorted : s.Pairwise fun a b => key a ≤ key b)
    (sorted' : t.Pairwise fun a b => key a ≤ key b)
    (same : ∀ k, s.filter (key · = k) = t.filter (key · = k)) : s = t := by
  have member (a : α) : a ∈ s ↔ a ∈ t := by
    have own := congrArg (a ∈ ·) (same (key a))
    simpa using own
  induction s generalizing t with
  | nil =>
    have none (a : α) : a ∉ t := fun inside => by simpa using (member a).mpr inside
    exact (List.eq_nil_iff_forall_not_mem.mpr none).symm
  | cons a s ih =>
    cases t with
    | nil => exact absurd ((member a).mp List.mem_cons_self) (by simp)
    | cons b t =>
      obtain ⟨least, rest⟩ := List.pairwise_cons.mp sorted
      obtain ⟨least', rest'⟩ := List.pairwise_cons.mp sorted'
      have low : key b ≤ key a := by
        rcases List.mem_cons.mp ((member a).mp List.mem_cons_self) with rfl | later
        · exact Int.le_refl _
        · exact least' a later
      have high : key a ≤ key b := by
        rcases List.mem_cons.mp ((member b).mpr List.mem_cons_self) with rfl | later
        · exact Int.le_refl _
        · exact least b later
      -- both heads come first under the least key
      have level : key b = key a := by omega
      have heads := same (key a)
      simp only [List.filter_cons, level, decide_true, if_true, List.cons.injEq] at heads
      obtain ⟨rfl, -⟩ := heads
      have tails (k : Int) : s.filter (key · = k) = t.filter (key · = k) := by
        have whole := same k
        simp only [List.filter_cons] at whole
        split at whole
        · exact (List.cons.inj whole).2
        · exact whole
      rw [ih rest rest' tails fun c => by simpa using congrArg (c ∈ ·) (tails (key c))]

theorem sortStable (l : List α) (k : Int) :
    (l.mergeSort fun a b => decide (key a ≤ key b)).filter (key · = k) = l.filter (key · = k) := by
  have level : (l.filter (key · = k)).Pairwise fun a b => decide (key a ≤ key b) = true := by
    refine List.pairwise_of_forall_mem_list fun a first b second => ?_
    have own : key a = k := by simpa using (List.mem_filter.mp first).2
    have own' : key b = k := by simpa using (List.mem_filter.mp second).2
    exact decide_eq_true (by omega)
  have kept := List.sublist_mergeSort (keyTrans key) (keyTotal key) level List.filter_sublist
  have inside := kept.filter (key · = k)
  simp only [List.filter_filter, Bool.and_self] at inside
  exact (inside.eq_of_length ((List.mergeSort_perm l _).filter _).length_eq.symm).symm

theorem sortedOutcome {l s : List α} (sorted : s.Pairwise fun a b => key a ≤ key b)
    (same : ∀ k, s.filter (key · = k) = l.filter (key · = k)) :
    (l.mergeSort fun a b => decide (key a ≤ key b)) = s := by
  have ordered := List.pairwise_mergeSort (keyTrans key) (keyTotal key) l
  exact sortedUnique key (by simpa using ordered) sorted fun k => (sortStable key l k).trans (same k).symm

end

end Handover.Layering

/-!
Entries by name, in the order in which their names first appeared. Putting an entry under a known
name keeps its place.
-/
namespace Handover.Table

variable {α : Type}

def get? (name : String) : List (String × α) → Option α
  | [] => none
  | (k, a) :: rest => if k = name then some a else get? name rest

def put (name : String) (value : α) : List (String × α) → List (String × α)
  | [] => [(name, value)]
  | (k, a) :: rest => if k = name then (k, value) :: rest else (k, a) :: put name value rest

def putNew (name : String) (value : α) (t : List (String × α)) : List (String × α) :=
  if (get? name t).isSome then t else put name value t

def erase (name : String) : List (String × α) → List (String × α)
  | [] => []
  | (k, a) :: rest => if k = name then erase name rest else (k, a) :: erase name rest

def assign (name : String) (value : Option α) (t : List (String × α)) : List (String × α) :=
  match value with
  | some a => put name a t
  | none => erase name t

def putAll (entries t : List (String × α)) : List (String × α) :=
  entries.foldl (fun t e => put e.1 e.2 t) t

def sorted (t : List (String × α)) : List (String × α) :=
  t.mergeSort fun a b => decide (a.1 ≤ b.1)

@[simp] theorem getPutSelf (name : String) (value : α) (t : List (String × α)) :
    get? name (put name value t) = some value := by
  induction t with
  | nil => simp [put, get?]
  | cons e rest ih =>
    obtain ⟨k, a⟩ := e
    by_cases h : k = name <;> simp [put, get?, h, ih]

theorem getPutOther {name other : String} (value : α) (t : List (String × α))
    (h : other ≠ name) : get? other (put name value t) = get? other t := by
  induction t with
  | nil => simp [put, get?, h.symm]
  | cons e rest ih =>
    obtain ⟨k, a⟩ := e
    by_cases hk : k = name
    · simp [put, get?, hk, h.symm]
    · by_cases ho : k = other <;> simp [put, get?, hk, ho, h, ih]

@[simp] theorem getEraseSelf (name : String) (t : List (String × α)) :
    get? name (erase name t) = none := by
  induction t with
  | nil => rfl
  | cons e rest ih =>
    obtain ⟨k, a⟩ := e
    by_cases h : k = name <;> simp [erase, get?, h, ih]

theorem getEraseOther {name other : String} (t : List (String × α)) (h : other ≠ name) :
    get? other (erase name t) = get? other t := by
  induction t with
  | nil => rfl
  | cons e rest ih =>
    obtain ⟨k, a⟩ := e
    by_cases hk : k = name
    · simp [erase, get?, hk, h.symm, ih]
    · by_cases ho : k = other <;> simp [erase, get?, hk, ho, h, ih]

@[simp] theorem getAssignSelf (name : String) (value : Option α) (t : List (String × α)) :
    get? name (assign name value t) = value := by
  cases value <;> simp [assign]

theorem getAssignOther {name other : String} (value : Option α) (t : List (String × α))
    (h : other ≠ name) : get? other (assign name value t) = get? other t := by
  cases value
  · exact getEraseOther t h
  · exact getPutOther _ t h

theorem assignGet (name : String) (t : List (String × α)) : assign name (get? name t) t = t := by
  induction t with
  | nil => rfl
  | cons e rest ih =>
    obtain ⟨k, a⟩ := e
    by_cases h : k = name
    · simp [get?, assign, put, h]
    · cases found : get? name rest <;> simp_all [get?, assign, put, erase]

theorem putAbsent (name : String) (value : α) {t : List (String × α)}
    (fresh : name ∉ t.map Prod.fst) : put name value t = t ++ [(name, value)] := by
  induction t with
  | nil => rfl
  | cons e t ih =>
    obtain ⟨k, a⟩ := e
    have apart : k ≠ name ∧ name ∉ t.map Prod.fst := by
      simpa [eq_comm] using fresh
    rw [put, if_neg apart.1, ih apart.2, List.cons_append]

theorem putAllFresh {entries t : List (String × α)}
    (unique : ((t ++ entries).map Prod.fst).Nodup) : putAll entries t = t ++ entries := by
  induction entries generalizing t with
  | nil => simp [putAll]
  | cons e entries ih =>
    have fresh : e.1 ∉ t.map Prod.fst := by
      intro member
      rw [List.map_append, List.nodup_append] at unique
      exact unique.2.2 _ member _ (by simp) rfl
    have step := ih (t := t ++ [e]) (by simpa using unique)
    rw [putAll, List.foldl_cons, putAbsent e.1 e.2 fresh]
    simpa [putAll] using step

theorem getMember {name : String} {a : α} {t : List (String × α)}
    (unique : (t.map Prod.fst).Nodup) : get? name t = some a ↔ (name, a) ∈ t := by
  induction t with
  | nil => simp [get?]
  | cons e t ih =>
    obtain ⟨k, b⟩ := e
    rw [List.map_cons, List.nodup_cons] at unique
    by_cases same : k = name
    · subst same
      have fresh : (k, a) ∉ t := fun inside => unique.1 (List.mem_map.mpr ⟨_, inside, rfl⟩)
      simp [get?, fresh, eq_comm]
    · simp [get?, same, ih unique.2, Ne.symm same]

theorem getInside {name : String} {a : α} {t : List (String × α)} (found : get? name t = some a) :
    (name, a) ∈ t := by
  induction t with
  | nil => cases found
  | cons e t ih =>
    obtain ⟨k, b⟩ := e
    by_cases same : k = name
    · subst same
      rw [get?, if_pos rfl] at found
      cases found
      exact List.mem_cons_self
    · rw [get?, if_neg same] at found
      exact List.mem_cons_of_mem _ (ih found)

theorem getAbsent {name : String} {t : List (String × α)} (absent : name ∉ t.map Prod.fst) :
    get? name t = none := by
  induction t with
  | nil => rfl
  | cons e t ih =>
    obtain ⟨k, a⟩ := e
    rw [List.map_cons, List.mem_cons, not_or] at absent
    rw [get?, if_neg (Ne.symm absent.1), ih absent.2]

theorem putNames (name : String) (value : α) (t : List (String × α)) :
    (put name value t).map Prod.fst =
      if name ∈ t.map Prod.fst then t.map Prod.fst else t.map Prod.fst ++ [name] := by
  induction t with
  | nil => rfl
  | cons e t ih =>
    obtain ⟨k, b⟩ := e
    by_cases same : k = name
    · simp [put, same]
    · rw [put, if_neg same, List.map_cons, ih]
      by_cases inside : name ∈ t.map Prod.fst <;> simp [inside, Ne.symm same]

theorem putUnique {name : String} (value : α) {t : List (String × α)}
    (unique : (t.map Prod.fst).Nodup) : ((put name value t).map Prod.fst).Nodup := by
  rw [putNames]
  split
  · exact unique
  · rename_i fresh
    rw [List.nodup_append]
    refine ⟨unique, by simp, ?_⟩
    intro k inside k' last same
    rw [same, List.mem_singleton.mp last] at inside
    exact fresh inside

theorem putMember {name : String} {value : α} {t : List (String × α)} {e : String × α}
    (member : e ∈ put name value t) : e = (name, value) ∨ e ∈ t := by
  induction t with
  | nil => exact Or.inl (List.mem_singleton.mp member)
  | cons f t ih =>
    obtain ⟨k, b⟩ := f
    by_cases same : k = name
    · subst same
      rw [put, if_pos rfl] at member
      rcases List.mem_cons.mp member with rfl | later
      · exact Or.inl rfl
      · exact Or.inr (List.mem_cons_of_mem _ later)
    · rw [put, if_neg same] at member
      rcases List.mem_cons.mp member with rfl | later
      · exact Or.inr List.mem_cons_self
      · exact (ih later).imp id (List.mem_cons_of_mem _)

theorem putAllUnique (entries : List (String × α)) {t : List (String × α)}
    (unique : (t.map Prod.fst).Nodup) : ((putAll entries t).map Prod.fst).Nodup := by
  induction entries generalizing t with
  | nil => exact unique
  | cons e entries ih => exact ih (putUnique e.2 unique)

theorem putAllMember {entries t : List (String × α)} {e : String × α}
    (member : e ∈ putAll entries t) : e ∈ entries ∨ e ∈ t := by
  induction entries generalizing t with
  | nil => exact Or.inr member
  | cons f entries ih =>
    rcases ih member with later | earlier
    · exact Or.inl (List.mem_cons_of_mem _ later)
    · rcases putMember earlier with rfl | old
      · exact Or.inl List.mem_cons_self
      · exact Or.inr old

theorem getAppend (name : String) (s t : List (String × α)) :
    get? name (s ++ t) = (get? name s).or (get? name t) := by
  induction s with
  | nil => rfl
  | cons e s ih =>
    obtain ⟨k, a⟩ := e
    by_cases same : k = name <;> simp [get?, same, ih]

theorem getPutAll (name : String) (entries t : List (String × α)) :
    get? name (putAll entries t) = (get? name entries.reverse).or (get? name t) := by
  induction entries generalizing t with
  | nil => rfl
  | cons e entries ih =>
    obtain ⟨k, a⟩ := e
    rw [List.reverse_cons, getAppend, Option.or_assoc]
    refine (ih (put k a t)).trans (congrArg _ ?_)
    by_cases same : k = name
    · subst same
      simp [get?]
    · simp [get?, same, getPutOther a t (Ne.symm same)]

theorem putNamed {name k : String} {a : α} {t : List (String × α)} :
    name ∈ (put k a t).map Prod.fst ↔ name = k ∨ name ∈ t.map Prod.fst := by
  rw [putNames]
  split
  · rename_i inside
    exact ⟨Or.inr, fun named => named.elim (fun same => same ▸ inside) id⟩
  · rw [List.mem_append, List.mem_singleton, or_comm]

theorem putAllNamed {name : String} {entries t : List (String × α)} :
    name ∈ (putAll entries t).map Prod.fst ↔
      name ∈ entries.map Prod.fst ∨ name ∈ t.map Prod.fst := by
  induction entries generalizing t with
  | nil => simp [putAll]
  | cons e entries ih =>
    refine (ih (t := put e.1 e.2 t)).trans ?_
    rw [putNamed, List.map_cons, List.mem_cons, or_assoc, or_left_comm]

theorem getPut (name other : String) (value : α) (t : List (String × α)) :
    get? other (put name value t) = if other = name then some value else get? other t := by
  split
  · rename_i same
    rw [same, getPutSelf]
  · rename_i apart
    exact getPutOther value t apart

theorem getPutNew (name other : String) (value : α) (t : List (String × α)) :
    get? other (putNew name value t) =
      (get? other t).or (if other = name then some value else none) := by
  unfold putNew
  split
  · rename_i known
    by_cases same : other = name
    · subst same
      obtain ⟨a, held⟩ := Option.isSome_iff_exists.mp known
      rw [held, Option.some_or]
    · rw [if_neg same, Option.or_none]
  · rename_i fresh
    have absent : get? name t = none := by simpa using fresh
    rw [getPut]
    by_cases same : other = name
    · rw [if_pos same, if_pos same, same, absent, Option.none_or]
    · rw [if_neg same, if_neg same, Option.or_none]

theorem putNewUnique {name : String} (value : α) {t : List (String × α)}
    (unique : (t.map Prod.fst).Nodup) : ((putNew name value t).map Prod.fst).Nodup := by
  unfold putNew
  split
  · exact unique
  · exact putUnique value unique

theorem getPerm {name : String} {s t : List (String × α)} (same : s.Perm t)
    (unique : (t.map Prod.fst).Nodup) : get? name s = get? name t := by
  have unique' : (s.map Prod.fst).Nodup := (same.map Prod.fst).nodup_iff.mpr unique
  refine Option.ext fun a => ?_
  rw [getMember unique, getMember unique', same.mem_iff]

theorem sortedPerm (t : List (String × α)) : (sorted t).Perm t := List.mergeSort_perm _ _

theorem sortedStrict {t : List (String × α)} (unique : (t.map Prod.fst).Nodup) :
    (sorted t).Pairwise fun a b => a.1 < b.1 := by
  have ordered : (sorted t).Pairwise fun a b => decide (a.1 ≤ b.1) = true := by
    refine List.pairwise_mergeSort ?_ ?_ t
    · intro a b c before after
      exact decide_eq_true (String.le_trans (of_decide_eq_true before) (of_decide_eq_true after))
    · intro a b
      simpa using String.le_total a.1 b.1
  have apart : (sorted t).Pairwise fun a b => a.1 ≠ b.1 := by
    have names := ((sortedPerm t).map Prod.fst).nodup_iff.mpr unique
    exact List.pairwise_map.mp names
  refine (ordered.and apart).imp fun {a b} both => ?_
  have le : a.1 ≤ b.1 := of_decide_eq_true both.1
  exact Std.lt_of_le_of_ne le both.2

theorem getPutAllUnique (name : String) {entries : List (String × α)} (t : List (String × α))
    (unique : (entries.map Prod.fst).Nodup) :
    get? name (putAll entries t) = (get? name entries).or (get? name t) := by
  rw [getPutAll, getPerm (List.reverse_perm entries) unique]

end Handover.Table

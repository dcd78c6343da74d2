import Mathlib.Data.List.Nodup
import Mathlib.Data.List.Perm.Subperm
import Handover.Proofs.DistinctMembers
import Handover.Wire.Message

/-!
Variants in the members of a message. Each variant finds its body or nothing, or has an issue inside its
own member; where all find, the values found are as many as the members that are set.
-/
namespace Handover.Wire

def Checked.Blames {α : Type} (P : Issue → Prop) (a : Checked α) : Prop :=
  ∀ rows, a = .error rows → rows ≠ [] ∧ ∀ r ∈ rows, P r

namespace Checked

variable {α β : Type} {P Q : Issue → Prop}

theorem blamesOk (x : α) : Blames P (.ok x : Checked α) := by
  intro rows failed
  cases failed

theorem blamesFail {kind : IssueKind} (fits : P ⟨[], kind⟩) : Blames P (fail kind : Checked α) := by
  intro rows failed
  cases failed
  exact ⟨by simp, by simpa using fits⟩

theorem blamesIssues {a : Checked α} (blames : Blames P a) : ∀ r ∈ a.issues, P r := by
  cases a with
  | ok x => intro r member; cases member
  | error rows => exact (blames rows rfl).2

theorem blamesPlus {a : Checked α} {rows : List Issue} (blames : Blames P a) (more : ∀ r ∈ rows, P r) :
    Blames P (plus a rows) := by
  intro all failed
  have same := plusError failed
  subst same
  constructor
  · intro empty
    cases a with
    | ok x =>
      have none : rows = [] := empty
      rw [none] at failed
      cases failed
    | error own => exact (blames own rfl).1 (List.append_eq_nil_iff.mp empty).1
  · intro r member
    rcases List.mem_append.mp member with own | new
    · exact blamesIssues blames r own
    · exact more r new

theorem blamesAp {f : Checked (α → β)} {a : Checked α} (first : Blames P f) (second : Blames P a) :
    Blames P (ap f a) := by
  intro all failed
  have same := apError failed
  subst same
  constructor
  · intro empty
    obtain ⟨left, right⟩ := List.append_eq_nil_iff.mp empty
    cases f with
    | error rows => exact (first rows rfl).1 left
    | ok g =>
      cases a with
      | error rows => exact (second rows rfl).1 right
      | ok x => cases failed
  · intro r member
    rcases List.mem_append.mp member with left | right
    · exact blamesIssues first r left
    · exact blamesIssues second r right

theorem blamesMap {a : Checked α} (f : α → β) (blames : Blames P a) : Blames P (a.map f) := by
  intro rows failed
  cases a with
  | ok x => cases failed
  | error own => cases failed; exact blames rows rfl

theorem blamesUnder {name : String} {a : Checked α} (blames : Blames P a)
    (lifted : ∀ r, P r → Q { r with path := name :: r.path }) : Blames Q (under name a) := by
  intro rows failed
  cases a with
  | ok x => cases failed
  | error own =>
    cases failed
    obtain ⟨some, each⟩ := blames own rfl
    refine ⟨by simpa using some, fun r member => ?_⟩
    obtain ⟨r', inside, rfl⟩ := List.mem_map.mp member
    exact lifted r' (each r' inside)

end Checked

inductive Content.Holds {τ : Type} : Content τ → Json → τ → Prop
  | unit (x : τ) : Holds (.unit x) (.object []) x
  | text (field form : String) (build : String → τ) (s : String) :
    Holds (.text field form build) (.object [(field, .string s)]) (build s)

def setMembers (ms : List (String × Json)) : List (String × Json) := ms.filter fun m => m.2 ≠ .null

variable {τ : Type} {ms : List (String × Json)}

theorem memberSet {name : String} {j : Json} :
    (name, j) ∈ setMembers ms ↔ (name, j) ∈ ms ∧ j ≠ .null := by
  simp [setMembers]

theorem unknownNone {known : List String} :
    unknownMembers known ms = [] ↔ ∀ m ∈ ms, m.1 ∈ known := by
  simp [unknownMembers]

theorem unknownInside (known : List String) (ms : List (String × Json)) :
    ∀ r ∈ unknownMembers known ms, r.path ≠ [] := by
  intro r member
  obtain ⟨m, -, rfl⟩ := List.mem_map.mp member
  simp

theorem onlyMember {field : String} {j : Json} (unique : (ms.map Prod.fst).Nodup)
    (known : ∀ m ∈ ms, m.1 ∈ [field]) (member : (field, j) ∈ ms) : ms = [(field, j)] := by
  have small : ms.length ≤ 1 := by
    have within : ms.map Prod.fst ⊆ [field] := by
      intro name inside
      obtain ⟨m, among, rfl⟩ := List.mem_map.mp inside
      exact known m among
    simpa using (List.subperm_of_subset unique within).length_le
  match ms, small, member with
  | [m], _, member => rw [List.mem_singleton.mp member]

theorem contentReads {c : Content τ} {o : Origin} {j : Json} {x : τ} (distinct : j.Distinct) :
    c.read o j = .ok x ↔ c.Holds j x := by
  constructor
  · intro read
    unfold Content.read at read
    split at read
    · obtain ⟨same, none⟩ := Checked.plusOk.mp read
      cases same
      cases List.eq_nil_iff_forall_not_mem.mpr fun m inside => by
        simpa using unknownNone.mp none m inside
      exact .unit _
    · cases read
    · obtain ⟨built, none⟩ := Checked.plusOk.mp read
      obtain ⟨s, found, rfl⟩ := Checked.mapOk.mp built
      unfold requiredText at found
      split at found
      · cases found
      rename_i j member
      cases j with
      | string t =>
        cases Checked.underOk.mp found
        have unique := (Json.distinctObject.mp distinct).1
        rw [onlyMember unique (unknownNone.mp none) ((Table.getMember unique).mp member)]
        exact .text _ _ _ _
      | _ => cases found
    · cases read
  · intro holds
    cases holds with
    | unit x => rfl
    | text field form build s =>
      simp [Content.read, requiredText, Table.get?, readText, Checked.under, unknownMembers,
        Checked.plus, Except.map]

theorem contentBlames (c : Content τ) (o : Origin) (j : Json) :
    (c.read o j).Blames fun _ => True := by
  unfold Content.read
  split
  · exact Checked.blamesPlus (Checked.blamesOk _) fun _ _ => trivial
  · exact Checked.blamesFail trivial
  · refine Checked.blamesPlus (Checked.blamesMap _ ?_) fun _ _ => trivial
    unfold requiredText
    split
    · intro rows failed
      cases failed
      simp
    · refine Checked.blamesUnder ?_ fun _ fits => fits
      unfold readText
      split
      · exact Checked.blamesOk _
      · exact Checked.blamesFail trivial
  · exact Checked.blamesFail trivial

theorem holdsUnique {c : Content τ} {j : Json} {x y : τ} (left : c.Holds j x) (right : c.Holds j y) :
    x = y := by
  cases left <;> cases right <;> rfl

theorem holdsSolid {c : Content τ} {j : Json} {x : τ} (holds : c.Holds j x) : j ≠ .null := by
  cases holds <;> simp

inductive Found (ms : List (String × Json)) : List (Variant τ) → List (Option τ) → Prop
  | nil : Found ms [] []
  | absent {v : Variant τ} {vs : List (Variant τ)} {xs : List (Option τ)}
    (unset : ∀ j, (v.name, j) ∈ ms → j = .null) (rest : Found ms vs xs) :
    Found ms (v :: vs) (none :: xs)
  | set {v : Variant τ} {vs : List (Variant τ)} {xs : List (Option τ)} {j : Json} {x : τ}
    (member : (v.name, j) ∈ ms) (holds : v.content.Holds j x) (rest : Found ms vs xs) :
    Found ms (v :: vs) (some x :: xs)

section
variable {o : Origin} {v : Variant τ} {vs : List (Variant τ)} {found : List (Option τ)}

theorem variantAbsent (unique : (ms.map Prod.fst).Nodup) (unset : ∀ j, (v.name, j) ∈ ms → j = .null) :
    v.read o ms = .ok none := by
  unfold Variant.read
  cases member : Table.get? v.name ms with
  | none => rfl
  | some j => rw [unset j ((Table.getMember unique).mp member)]

theorem variantSet {j : Json} (unique : (ms.map Prod.fst).Nodup) (member : (v.name, j) ∈ ms)
    (solid : j ≠ .null) :
    v.read o ms = Checked.under v.name ((v.content.read o j).map some) := by
  unfold Variant.read
  rw [(Table.getMember unique).mpr member]
  cases j with
  | null => exact (solid rfl).elim
  | _ => rfl

theorem variantsFound (distinct : (Json.object ms).Distinct) :
    readVariants o ms vs = .ok found ↔ Found ms vs found := by
  obtain ⟨unique, bodies⟩ := Json.distinctObject.mp distinct
  constructor
  · intro read
    induction vs generalizing found with
    | nil => cases read; exact .nil
    | cons v vs ih =>
      obtain ⟨put, xs, first, rest, rfl⟩ := Checked.apOk.mp read
      obtain ⟨x?, own, rfl⟩ := Checked.mapOk.mp first
      by_cases unset : ∀ j, (v.name, j) ∈ ms → j = .null
      · cases (variantAbsent unique unset).symm.trans own
        exact .absent unset (ih rest)
      · simp only [not_forall] at unset
        obtain ⟨j, member, solid⟩ := unset
        rw [variantSet unique member solid] at own
        obtain ⟨x, body, rfl⟩ := Checked.mapOk.mp (Checked.underOk.mp own)
        exact .set member ((contentReads (bodies _ member)).mp body) (ih rest)
  · intro source
    induction source with
    | nil => rfl
    | absent unset rest ih =>
      rw [readVariants, variantAbsent unique unset, ih]
      rfl
    | set member holds rest ih =>
      have body := (contentReads (o := o) (bodies _ member)).mpr holds
      rw [readVariants, variantSet unique member (holdsSolid holds), body, ih]
      rfl

theorem variantsBlame (o : Origin) (ms : List (String × Json)) (vs : List (Variant τ)) :
    (readVariants o ms vs).Blames fun r => r.path ≠ [] := by
  induction vs with
  | nil => exact Checked.blamesOk _
  | cons v vs ih =>
    refine Checked.blamesAp (Checked.blamesMap _ ?_) ih
    unfold Variant.read
    split
    · exact Checked.blamesOk _
    · exact Checked.blamesOk _
    · exact Checked.blamesUnder (Checked.blamesMap _ (contentBlames _ o _)) fun _ _ => by simp

theorem foundComplete
    (bodies : ∀ v ∈ vs, ∀ j, (v.name, j) ∈ setMembers ms → ∃ x, v.content.Holds j x) :
    ∃ found, Found ms vs found := by
  induction vs with
  | nil => exact ⟨[], .nil⟩
  | cons v vs ih =>
    obtain ⟨xs, rest⟩ := ih fun u among => bodies u (List.mem_cons_of_mem v among)
    by_cases unset : ∀ j, (v.name, j) ∈ ms → j = .null
    · exact ⟨none :: xs, .absent unset rest⟩
    · simp only [not_forall] at unset
      obtain ⟨j, member, solid⟩ := unset
      obtain ⟨x, holds⟩ := bodies v List.mem_cons_self j (memberSet.mpr ⟨member, solid⟩)
      exact ⟨some x :: xs, .set member holds rest⟩

theorem foundHolds (unique : (ms.map Prod.fst).Nodup) (source : Found ms vs found) {j : Json}
    (among : v ∈ vs) (member : (v.name, j) ∈ setMembers ms) :
    ∃ x, some x ∈ found ∧ v.content.Holds j x := by
  obtain ⟨inside, solid⟩ := memberSet.mp member
  induction source with
  | nil => cases among
  | absent unset rest ih =>
    rcases List.mem_cons.mp among with rfl | later
    · exact (solid (unset j inside)).elim
    · obtain ⟨x, value, holds⟩ := ih later
      exact ⟨x, List.mem_cons_of_mem _ value, holds⟩
  | @set u us xs i x own holds rest ih =>
    rcases List.mem_cons.mp among with rfl | later
    · have same : i = j := by
        have first := (Table.getMember unique).mpr own
        rw [(Table.getMember unique).mpr inside] at first
        exact (Option.some.inj first).symm
      subst same
      exact ⟨x, List.mem_cons_self, holds⟩
    · obtain ⟨y, value, body⟩ := ih later
      exact ⟨y, List.mem_cons_of_mem _ value, body⟩

theorem foundValue (source : Found ms vs found) {x : τ} (value : some x ∈ found) :
    ∃ v ∈ vs, ∃ j, (v.name, j) ∈ setMembers ms ∧ v.content.Holds j x := by
  induction source with
  | nil => cases value
  | absent unset rest ih =>
    obtain ⟨v, among, body⟩ := ih (by simpa using value)
    exact ⟨v, List.mem_cons_of_mem _ among, body⟩
  | set member holds rest ih =>
    rcases List.mem_cons.mp value with same | later
    · cases same
      exact ⟨_, List.mem_cons_self, _, memberSet.mpr ⟨member, holdsSolid holds⟩, holds⟩
    · obtain ⟨v, among, body⟩ := ih later
      exact ⟨v, List.mem_cons_of_mem _ among, body⟩

theorem foundSetNames (source : Found ms vs found) :
    (found.filterMap id).length =
      ((vs.map Variant.name).filter fun n => n ∈ (setMembers ms).map Prod.fst).length := by
  induction source with
  | nil => rfl
  | @absent v vs xs unset rest ih =>
    have outside : v.name ∉ (setMembers ms).map Prod.fst := by
      intro inside
      obtain ⟨⟨name, j⟩, member, same⟩ := List.mem_map.mp inside
      subst same
      obtain ⟨inside, solid⟩ := memberSet.mp member
      exact solid (unset j inside)
    simpa [outside] using ih
  | @set v vs xs j x member holds rest ih =>
    have inside : v.name ∈ (setMembers ms).map Prod.fst :=
      List.mem_map.mpr ⟨_, memberSet.mpr ⟨member, holdsSolid holds⟩, rfl⟩
    simpa [inside] using ih

theorem foundCount (unique : (ms.map Prod.fst).Nodup) (names : (vs.map Variant.name).Nodup)
    (known : ∀ m ∈ ms, m.1 ∈ vs.map Variant.name) (source : Found ms vs found) :
    (found.filterMap id).length = (setMembers ms).length := by
  have distinct : ((setMembers ms).map Prod.fst).Nodup :=
    unique.sublist (List.filter_sublist.map Prod.fst)
  have same : ((vs.map Variant.name).filter fun n => n ∈ (setMembers ms).map Prod.fst).Perm
      ((setMembers ms).map Prod.fst) := by
    refine (List.perm_ext_iff_of_nodup (names.filter _) distinct).mpr fun name => ?_
    rw [List.mem_filter, decide_eq_true_iff]
    refine ⟨And.right, fun inside => ⟨?_, inside⟩⟩
    obtain ⟨m, member, rfl⟩ := List.mem_map.mp inside
    exact known m (List.mem_filter.mp member).1
  rw [foundSetNames source, same.length_eq, List.length_map]

end

end Handover.Wire

import Handover.Proofs.Atomicity

/-!
What the namespaces of a store hold. The two kinds of store are seen alike: by a mode, which says how they
fail, and by a cell for each namespace. Writing and rolling back assign one cell; nothing else moves.
-/
namespace Handover

inductive Cell
  | bytes (b : ByteArray)
  | record (r : Record)

namespace Store

def cell? (s : Store) (ns : String) : Option Cell :=
  match s with
  | .bytes b => (b.cell? ns).map .bytes
  | .plain p => (p.cell? ns).map .record

def mode (s : Store) : Option (Bool × Bool) :=
  match s with
  | .bytes _ => none
  | .plain p => some (p.failsGet, p.failsSet)

def encode (s : Store) (ns : String) (r : Record) : Except Failure Cell :=
  match s with
  | .bytes _ =>
    match Wire.RecordForm.ofRecord r with
    | .error rows => .error (.issues rows)
    | .ok form => .ok (.bytes form.toBytes)
  | .plain p => if p.failsSet then .error (.fault (.storage ns .unwritable)) else .ok (.record r)

structure Assigned (ns : String) (c : Option Cell) (s t : Store) : Prop where
  mode : t.mode = s.mode
  own : t.cell? ns = c
  others : ∀ other, other ≠ ns → t.cell? other = s.cell? other

section
variable {s t now before : Store} {ns : String} {r : Record}

theorem assignedSame (ns : String) (s : Store) : Assigned ns (s.cell? ns) s s :=
  ⟨rfl, rfl, fun _ _ => rfl⟩

theorem contentCells (same : s.content = t.content) :
    s.mode = t.mode ∧ ∀ ns, s.cell? ns = t.cell? ns := by
  cases s with
  | bytes b =>
    cases t with
    | bytes b' => cases same; exact ⟨rfl, fun _ => rfl⟩
    | plain p => cases same
  | plain p =>
    cases t with
    | bytes b => cases same
    | plain q =>
      simp only [content, plain.injEq, PlainStore.mk.injEq] at same
      obtain ⟨cells, failsGet, failsSet, -⟩ := same
      simp [mode, cell?, PlainStore.cell?, cells, failsGet, failsSet]

theorem cellEnter (s : Store) (ns : String) : s.enter.cell? ns = s.cell? ns :=
  (contentCells (contentEnter s)).2 ns

theorem modeEnter (s : Store) : s.enter.mode = s.mode := (contentCells (contentEnter s)).1

theorem bytesAlike (mode : s.mode = t.mode) (cell : s.cell? ns = t.cell? ns) :
    s.bytes? ns = t.bytes? ns := by
  cases s with
  | bytes b =>
    cases t with
    | bytes b' => exact Option.map_injective (fun _ _ h => Cell.bytes.inj h) cell
    | plain q => cases mode
  | plain p =>
    cases t with
    | bytes b => cases mode
    | plain q => rfl

theorem getAlike (mode : s.mode = t.mode) (cell : s.cell? ns = t.cell? ns) :
    (s.get ns).1 = (t.get ns).1 := by
  cases s with
  | bytes b =>
    cases t with
    | plain q => cases mode
    | bytes b' =>
      have same : b.cell? ns = b'.cell? ns :=
        Option.map_injective (fun _ _ h => Cell.bytes.inj h) cell
      simp only [get, ByteStore.get, same]
  | plain p =>
    cases t with
    | bytes b => cases mode
    | plain q =>
      have same : p.cell? ns = q.cell? ns :=
        Option.map_injective (fun _ _ h => Cell.record.inj h) cell
      simp only [Store.mode, Option.some.injEq, Prod.mk.injEq] at mode
      simp only [get, PlainStore.get, same, mode.1]

theorem encodeAlike (ns : String) (r : Record) (mode : s.mode = t.mode) :
    s.encode ns r = t.encode ns r := by
  cases s with
  | bytes b =>
    cases t with
    | bytes b' => rfl
    | plain q => cases mode
  | plain p =>
    cases t with
    | bytes b => cases mode
    | plain q =>
      simp only [Store.mode, Option.some.injEq, Prod.mk.injEq] at mode
      simp only [encode, mode.2]

theorem plantAssigned (b : ByteStore) (ns : String) (raw : ByteArray) :
    Assigned ns (some (.bytes raw)) (.bytes b) (.bytes (b.plant ns raw)) := by
  refine ⟨rfl, ?_, fun other apart => ?_⟩
  · simp [cell?, ByteStore.plant, ByteStore.cell?]
  · simp [cell?, ByteStore.plant, ByteStore.cell?, Table.getPutOther _ _ apart]

theorem seedAssigned (p : PlainStore) (ns : String) (r : Record) :
    Assigned ns (some (.record r)) (.plain p) (.plain (p.seed ns r)) := by
  refine ⟨rfl, ?_, fun other apart => ?_⟩
  · simp [cell?, PlainStore.seed, PlainStore.cell?]
  · simp [cell?, PlainStore.seed, PlainStore.cell?, Table.getPutOther _ _ apart]

theorem setEncoded (s : Store) (ns : String) (r : Record) :
    (∃ e, s.encode ns r = .error e ∧ s.set ns r = .error e) ∨
    ∃ c t, s.encode ns r = .ok c ∧ s.set ns r = .ok t ∧ s.Assigned ns (some c) t := by
  cases s with
  | bytes b =>
    simp only [encode, set, ByteStore.set]
    cases Wire.RecordForm.ofRecord r with
    | error rows => exact Or.inl ⟨_, rfl, rfl⟩
    | ok form => exact Or.inr ⟨_, _, rfl, rfl, plantAssigned b ns _⟩
  | plain p =>
    simp only [encode, set, PlainStore.set]
    cases p.failsSet with
    | true => exact Or.inl ⟨_, rfl, rfl⟩
    | false =>
      have seeded := seedAssigned p ns r
      exact Or.inr ⟨_, _, rfl, rfl, seeded.mode, seeded.own, seeded.others⟩

theorem setAlike (ns : String) (r : Record) (mode : s.mode = t.mode) :
    (∃ e, s.set ns r = .error e ∧ t.set ns r = .error e) ∨
    ∃ c s' t', s.set ns r = .ok s' ∧ t.set ns r = .ok t' ∧
      s.Assigned ns (some c) s' ∧ t.Assigned ns (some c) t' := by
  have coded := encodeAlike ns r mode
  rcases setEncoded s ns r with ⟨e, left, failed⟩ | ⟨c, s', left, kept, assigned⟩
  · rcases setEncoded t ns r with ⟨e', right, failed'⟩ | ⟨c', t', right, -, -⟩
    · rw [left, right] at coded
      cases coded
      exact Or.inl ⟨e, failed, failed'⟩
    · rw [left, right] at coded
      cases coded
  · rcases setEncoded t ns r with ⟨e', right, -⟩ | ⟨c', t', right, kept', assigned'⟩
    · rw [left, right] at coded
      cases coded
    · rw [left, right] at coded
      cases coded
      exact Or.inr ⟨c, s', t', kept, kept', assigned, assigned'⟩

theorem rollbackAssigned (ns : String) (same : now.mode.isSome = before.mode.isSome) :
    now.Assigned ns (before.cell? ns) (now.rollback before ns) := by
  cases now with
  | bytes n =>
    cases before with
    | plain b => cases same
    | bytes b =>
      refine ⟨rfl, ?_, fun other apart => ?_⟩
      · simp [rollback, cell?, ByteStore.cell?]
      · simp [rollback, cell?, ByteStore.cell?, Table.getAssignOther _ _ apart]
  | plain n =>
    cases before with
    | bytes b => cases same
    | plain b =>
      refine ⟨rfl, ?_, fun other apart => ?_⟩
      · simp [rollback, cell?, PlainStore.cell?]
      · simp [rollback, cell?, PlainStore.cell?, Table.getAssignOther _ _ apart]

end

end Store

end Handover

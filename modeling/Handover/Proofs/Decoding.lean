import Mathlib.Logic.ExistsUnique
import Handover.Proofs.Damage
import Handover.Proofs.KeptRecord
import Handover.Proofs.SpelledForm

/-!
What a store makes of arbitrary bytes. Whether they spell a form is asked first, and whether the form keeps
the rules of a record only then.
-/
namespace Handover

namespace Wire.RecordForm

inductive Breaks (f : RecordForm) : Flaw → Prop
  | holder (abolished : f.abolished = true) (named : f.admin ≠ none ∨ f.proposed ≠ none) :
    Breaks f .abolishedHolder
  | lone (standing : f.abolished = false) (vacant : f.admin = none) (named : f.proposed ≠ none) :
    Breaks f .loneProposal

theorem makeBreaks {f : RecordForm} {flaw : Flaw} : f.toRecord = .error flaw ↔ f.Breaks flaw := by
  have flag : (Json.bool f.abolished).isSet = f.abolished := rfl
  simp only [toRecord, Record.make, flag, Option.map_eq_none_iff, ne_eq]
  constructor
  · intro refused
    split at refused
    · rename_i holder
      cases refused
      exact .holder holder.1 (Classical.not_and_iff_not_or_not.mp holder.2)
    split at refused
    · rename_i vacant lone
      cases refused
      refine .lone ?_ lone.2 lone.1
      exact Bool.eq_false_iff.mpr fun abolished => vacant ⟨abolished, fun both => lone.1 both.2⟩
    · cases refused
  · rintro (⟨abolished, named⟩ | ⟨standing, vacant, named⟩)
    · exact dif_pos ⟨abolished, Classical.not_and_iff_not_or_not.mpr named⟩
    · rw [dif_neg (by simp [standing]), dif_pos ⟨named, vacant⟩]

end Wire.RecordForm

open Wire

structure Record.Holds (r : Record) (f : RecordForm) : Prop where
  abolished : r.abolished = .bool f.abolished
  admin : r.admin = f.admin.map Party.named
  proposed : r.proposed = f.proposed.map Party.named

theorem Record.holdsMade {r : Record} {f : RecordForm} : f.toRecord = .ok r ↔ r.Holds f := by
  constructor
  · intro made
    obtain ⟨abolished, admin, proposed⟩ := makeFields made
    exact ⟨abolished, admin, proposed⟩
  · rintro ⟨abolished, admin, proposed⟩
    rw [RecordForm.toRecord, ← abolished, ← admin, ← proposed]
    exact makeOwn r

inductive Ending
  | corrupt
  | flawed (flaw : Flaw)
  | found (r : Record)

namespace Ending

def Shown (ns : String) (answer : Except Failure (Option Record)) : Ending → Prop
  | corrupt => ∃ issues, answer = .error (.fault (.storage ns (.corrupt issues)))
  | flawed flaw => answer = .error (.fault (.record flaw))
  | found r => answer = .ok (some r)

def Due (raw : ByteArray) : Ending → Prop
  | corrupt => ¬ ∃ f, RecordForm.Spelled raw f
  | flawed flaw => ∃ f, RecordForm.Spelled raw f ∧ f.Breaks flaw
  | found r => ∃ f, RecordForm.Spelled raw f ∧ (∀ flaw, ¬ f.Breaks flaw) ∧ r.Holds f

def ofBytes (raw : ByteArray) : Ending :=
  match RecordForm.ofBytes raw with
  | .error _ => corrupt
  | .ok f =>
    match f.toRecord with
    | .error flaw => flawed flaw
    | .ok r => found r

variable {ns : String} {raw : ByteArray}

theorem dueIff {e : Ending} : e.Due raw ↔ e = ofBytes raw := by
  -- in each branch of the reader one ending is due, and the others are refuted by what was read
  unfold ofBytes
  cases read : RecordForm.ofBytes raw with
  | error rows =>
    have unspelt (f : RecordForm) : ¬ RecordForm.Spelled raw f := by
      rw [← RecordForm.spelledRead, read]
      simp
    cases e <;> simp [Due, unspelt]
  | ok f =>
    have only (f' : RecordForm) : RecordForm.Spelled raw f' ↔ f' = f := by
      rw [← RecordForm.spelledRead, read, Except.ok.injEq, eq_comm]
    cases made : f.toRecord with
    | error flaw =>
      have breaks (flaw' : Flaw) : f.Breaks flaw' ↔ flaw' = flaw := by
        rw [← RecordForm.makeBreaks, made, Except.error.injEq, eq_comm]
      cases e <;> simp [Due, only, breaks, made]
    | ok r =>
      have keeps (flaw : Flaw) : ¬ f.Breaks flaw := by
        rw [← RecordForm.makeBreaks, made]
        simp
      have holds (r' : Record) : r'.Holds f ↔ r' = r := by
        rw [← Record.holdsMade, made, Except.ok.injEq, eq_comm]
      cases e <;> simp [Due, only, keeps, holds, made]

theorem shownOnce {answer : Except Failure (Option Record)} {e e' : Ending}
    (shown : e.Shown ns answer) (shown' : e'.Shown ns answer) : e = e' := by
  cases e <;> cases e' <;> simp_all [Shown]

section
variable (h : Host) (b : ByteStore) (ns : String) (raw : ByteArray) (v : Validator)
  (log : List Audit.Line)

theorem shownLoaded (told : ∀ f, (b.plant ns raw).get ns = .error f → h.Told f) :
    (ofBytes raw).Shown ns (h.load ns ⟨.bytes (b.plant ns raw), v, log⟩).1 := by
  have got : (b.plant ns raw).get ns = (ByteStore.decode ns raw).map some := by
    rw [ByteStore.get, ByteStore.cellPlant]
  have damaged {f : Fault} (refused : ByteStore.decode ns raw = .error f) :
      (h.load ns ⟨.bytes (b.plant ns raw), v, log⟩).1 = .error (.fault f) := by
    have failed : (b.plant ns raw).get ns = .error f := got.trans (by rw [refused]; rfl)
    rw [← Host.damageTold (told f failed)]
    exact loadDamaged failed
  unfold ofBytes
  unfold ByteStore.decode at got damaged
  cases read : RecordForm.ofBytes raw with
  | error rows =>
    rw [read] at damaged
    exact ⟨_, damaged rfl⟩
  | ok f =>
    rw [read] at got damaged
    simp only at got damaged ⊢
    cases made : f.toRecord with
    | error flaw =>
      rw [made] at damaged
      exact damaged rfl
    | ok r =>
      rw [made] at got
      simp only [Host.load, Store.get, got]
      rfl

theorem loadKeepsBytes : (h.load ns ⟨.bytes b, v, log⟩).2.store = .bytes b := by
  have kept := loadReads h ns ⟨.bytes b, v, log⟩
  cases after : (h.load ns ⟨.bytes b, v, log⟩).2.store with
  | bytes t =>
    rw [after] at kept
    exact kept
  | plain t =>
    rw [after] at kept
    cases kept

end

def bob : Record where
  abolished := .bool false
  admin := some (.named "bob")
  proposed := none
  abolishedVacant := fun abolished => by cases abolished
  proposedHasAdmin := fun named => (named rfl).elim

def namedTwice : String := " \x7b\"admin\":\"ann\", \"abolished\":\"OFF\", \"admin\":\"bob\"\x7d\n"

theorem namedTwiceFound : ofBytes namedTwice.toUTF8 = .found bob := by
  have read : Json.read? .standard namedTwice =
      some (.object [("admin", .string "bob"), ("abolished", .string "OFF")]) := by decide +kernel
  have form : RecordForm.ofBytes namedTwice.toUTF8 = .ok ⟨false, some "bob", none⟩ :=
    (ofBytesText read).trans (by decide)
  rw [ofBytes, form]
  rfl

def planted (text : String) : Site :=
  ⟨.bytes (ByteStore.empty.plant "xyz" text.toUTF8), .canonical Settings.trial.bounds, []⟩

def loneBrace : String := "\x7b"

def namedNumber : String := "\x7b\"admin\": NaN, \"admin\": null\x7d"

def halfCharacter : String := "\x7b\"admin\": \"\\ud800\", \"admin\": null\x7d"

theorem unreadCorrupt {text : String} (unread : Json.read? .standard text = none) :
    (ByteStore.empty.plant "xyz" text.toUTF8).get "xyz" = .error (.storage "xyz" (.corrupt 1)) := by
  rw [ByteStore.get, ByteStore.cellPlant]
  simp only [ByteStore.decode, ofBytesNoText unread]
  rfl

theorem unreadTold {text : String} (unread : Json.read? .standard text = none) (f : Fault)
    (failed : (ByteStore.empty.plant "xyz" text.toUTF8).get "xyz" = .error f) :
    (Host.console []).Told f := by
  rw [unreadCorrupt unread] at failed
  cases failed
  refine Audit.decodeFailureTaken _ Audit.legibleNone ?_
  rintro ns issues ⟨⟩
  decide

theorem foundGot {text : String} {r : Record} (read : ofBytes text.toUTF8 = .found r) :
    (ByteStore.empty.plant "xyz" text.toUTF8).get "xyz" = .ok (some r) := by
  rw [ByteStore.get, ByteStore.cellPlant]
  unfold ofBytes at read
  cases form : RecordForm.ofBytes text.toUTF8 with
  | error rows => rw [form] at read; cases read
  | ok f =>
    simp only [form] at read
    cases made : f.toRecord with
    | error flaw => rw [made] at read; cases read
    | ok r' =>
      rw [made] at read
      cases read
      simp only [ByteStore.decode, form, made]
      rfl

theorem foundTold {text : String} {r : Record} (read : ofBytes text.toUTF8 = .found r) (h : Host) (f : Fault)
    (failed : (ByteStore.empty.plant "xyz" text.toUTF8).get "xyz" = .error f) : h.Told f := by
  rw [foundGot read] at failed
  cases failed

theorem loadedUnread {text : String} (unread : Json.read? .standard text = none) :
    ((Host.console []).load "xyz" (planted text)).1 = .error (.fault (.storage "xyz" (.corrupt 1))) := by
  have failed := unreadCorrupt unread
  rw [← Host.damageTold (unreadTold unread _ failed)]
  exact loadDamaged failed

theorem loadedFound {text : String} {r : Record} (read : ofBytes text.toUTF8 = .found r) :
    ((Host.console []).load "xyz" (planted text)).1 = .ok (some r) := by
  have shown := shownLoaded (.console []) .empty "xyz" text.toUTF8 (.canonical Settings.trial.bounds) []
    (foundTold read _)
  rw [read] at shown
  exact shown

end Ending

end Handover

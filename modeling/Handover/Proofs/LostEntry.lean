import Handover.Service

/-!
When a log loses an entry. A captured journal takes every entry. A written one can fail over an integer of
too many digits, and a console also over a trace that is no text; so an entry is lost only where one of
these is bound, by the caller, by the logger or around them.
-/
namespace Handover

def Json.isJoinable : Json → Bool
  | .null | .string _ => true
  | _ => false

namespace Audit

/-- What a loss is to be blamed on, among the fields that a journal was to write. -/
inductive Blame (settings : Settings) (fields : Fields) : Loss → Prop
  | overlong {f : String × Json} (member : f ∈ fields) (unwritable : f.2.isWritable = false) :
    Blame settings fields .overlong
  | unjoined {f : String × Json} (console : settings.isProduction = false) (named : f.1 ∈ joinedNames)
    (member : f ∈ fields) (unjoinable : f.2.isJoinable = false) :
    Blame settings fields (.unjoined f.2.kindName)

section
variable {settings : Settings} {fields : Fields} {trace : Option String} {l : Loss}

theorem unwritableField (unwritable : ¬ writable fields = true) :
    ∃ f ∈ fields, f.2.isWritable = false := by
  simpa [writable] using unwritable

theorem machineFieldsMember {f : String × Json} (member : f ∈ machineFields trace fields) :
    (∃ t, f = ("exception", .string t)) ∨ f ∈ fields := by
  unfold machineFields at member
  split at member
  · split at member
    · rcases Table.putMember member with same | kept
      · exact Or.inl ⟨_, same⟩
      · exact Or.inr (List.mem_filter.mp kept).1
    · exact Or.inr (List.mem_filter.mp member).1
  · exact Or.inr (List.mem_filter.mp member).1

theorem machineLost (lost : machineLine trace fields = .error l) : Blame settings fields l := by
  simp only [machineLine] at lost
  split at lost
  · cases lost
  rename_i unwritable
  cases lost
  obtain ⟨f, member, overlong⟩ := unwritableField unwritable
  rcases machineFieldsMember member with ⟨t, rfl⟩ | told
  · cases overlong
  · exact .overlong told overlong

theorem traceLost {name : String} (console : settings.isProduction = false) (named : name ∈ joinedNames)
    (lost : trace? name fields = .error l) : Blame settings fields l := by
  unfold trace? at lost
  split at lost
  · cases lost
  · cases lost
  · cases lost
  · rename_i j null text held
    cases lost
    have unjoinable : j.isJoinable = false := by
      cases j with
      | null => exact (null rfl).elim
      | string s => exact (text s rfl).elim
      | _ => rfl
    exact .unjoined (f := (name, j)) console named (Table.getInside held) unjoinable

theorem failureTraceLost (console : settings.isProduction = false)
    (lost : failureTrace trace fields = .error l) : Blame settings fields l := by
  unfold failureTrace at lost
  split at lost
  · split at lost
    · cases lost
    · exact traceLost console (by decide) lost
  · exact traceLost console (by decide) lost

theorem tracesLost (console : settings.isProduction = false) (lost : traces trace fields = .error l) :
    Blame settings fields l := by
  unfold traces at lost
  cases stack : trace? "stack" fields with
  | error l' =>
    rw [stack] at lost
    cases lost
    exact traceLost console (by decide) stack
  | ok above =>
    cases failure : failureTrace trace fields with
    | error l' =>
      rw [stack, failure] at lost
      cases lost
      exact failureTraceLost console failure
    | ok below =>
      rw [stack, failure] at lost
      cases lost

theorem consoleLost {around : Surroundings} {e : Entry} (console : settings.isProduction = false)
    (lost : consoleText around trace e fields = .error l) : Blame settings fields l := by
  unfold consoleText at lost
  split at lost
  · cases below : traces trace fields with
    | ok text => rw [below] at lost; cases lost
    | error l' =>
      rw [below] at lost
      cases lost
      exact tracesLost console below
  · rename_i unwritable
    cases lost
    obtain ⟨f, member, overlong⟩ := unwritableField unwritable
    exact .overlong (List.mem_filter.mp member).1 overlong

/-- Only a written journal loses an entry, over a field of it or a field bound around it. -/
theorem takeLost {j : Journal} {around : Surroundings} {e : Entry}
    (lost : j.take around trace e = .error l) :
    ∃ settings, j = .written settings ∧ Blame settings (complete settings around e) l := by
  unfold Journal.take at lost
  split at lost
  · cases lost
  rename_i settings
  refine ⟨settings, rfl, ?_⟩
  split at lost
  · cases lost
  split at lost
  · cases line : machineLine trace (complete settings around e) with
    | ok s => simp only [line, Except.map] at lost; cases lost
    | error l' =>
      simp only [line, Except.map] at lost
      cases lost
      exact machineLost line
  · rename_i reader
    cases text : consoleText around trace e (complete settings around e) with
    | ok s => simp only [text, Except.map] at lost; cases lost
    | error l' =>
      simp only [text, Except.map] at lost
      cases lost
      exact consoleLost (by simpa using reader) text

end

def legible (f : String × Json) : Bool :=
  f.2.isWritable && (!joinedNames.contains f.1 || f.2.isJoinable)

def Legible (fields : Fields) : Prop := ∀ f ∈ fields, legible f = true

section
variable {around : Surroundings} {fields : Fields}

theorem legibleNone : Legible [] := fun f none => by cases none

theorem legibleText (name s : String) : legible (name, .string s) = true := by
  simp [legible, Json.isWritable, Json.isJoinable]

theorem legibleOfText (name : String) (s : Option String) : legible (name, .ofText? s) = true := by
  cases s <;> simp [legible, Json.ofText?, Json.isWritable, Json.isJoinable]

theorem legibleBlameless {settings : Settings} {l : Loss} (legible : Legible fields) :
    ¬ Blame settings fields l := by
  intro blame
  cases blame with
  | overlong member unwritable =>
    have whole := legible _ member
    simp [Audit.legible, unwritable] at whole
  | unjoined console named member unjoinable =>
    have whole := legible _ member
    simp [Audit.legible, named, unjoinable] at whole

theorem legiblePut {name : String} {j : Json} (own : legible (name, j) = true) (rest : Legible fields) :
    Legible (Table.put name j fields) := by
  intro f member
  rcases Table.putMember member with rfl | kept
  · exact own
  · exact rest f kept

theorem legiblePutAll {own : Fields} (legible : Legible own) (rest : Legible fields) :
    Legible (Table.putAll own fields) := by
  intro f member
  rcases Table.putAllMember member with given | kept
  · exact legible f given
  · exact rest f kept

theorem legiblePutNew {name : String} {j : Json} (own : legible (name, j) = true) (rest : Legible fields) :
    Legible (Table.putNew name j fields) := by
  unfold Table.putNew
  split
  · exact rest
  · exact legiblePut own rest

theorem legibleComplete (settings : Settings) {e : Entry} (outer : Legible around.fields)
    (own : Legible e.fields) : Legible (complete settings around e) := by
  have members : Legible e.members := legiblePut (legibleText ..) own
  have stamped {rest : Fields} (before : Legible rest) : Legible (Correlation.stamp around.active rest) := by
    unfold Correlation.stamp
    split
    · exact before
    · exact legiblePutNew (legibleText ..) before
  refine legiblePut (legibleText ..) (stamped (legiblePutNew (legibleText ..) ?_))
  exact legiblePut (legibleText ..) (legiblePutAll members outer)

/-- Every journal takes an entry of legible fields where nothing but such fields is bound. -/
theorem takesLegible (j : Journal) (trace : Option String) {e : Entry} (outer : Legible around.fields)
    (own : Legible e.fields) : ∃ lines, j.take around trace e = .ok lines := by
  cases taken : j.take around trace e with
  | ok lines => exact ⟨lines, rfl⟩
  | error l =>
    obtain ⟨settings, -, blame⟩ := takeLost taken
    exact (legibleBlameless (legibleComplete settings outer own) blame).elim

theorem legibleRequest {l : Logger} (bound : Legible l.fields) (active operation : String) (r : Request)
    (sender : Option Party) : Legible (l.ofRequest active operation r sender).fields := by
  refine legiblePutAll (fun f member => ?_) bound
  have text : ∃ s, f.2 = .string s := by
    unfold requestFields at member
    cases sender <;> split at member <;> simp at member <;> grind
  obtain ⟨s, text⟩ := text
  obtain ⟨name, j⟩ := f
  obtain rfl : j = .string s := text
  exact legibleText name s

theorem legibleMade (journal : Journal) (service component ns : String) :
    Legible (Logger.ofService journal service component ns).fields := by
  simp [Logger.ofService, Legible, legibleText]

theorem decodeFailureTaken (j : Journal) (outer : Legible around.fields) {f : Fault}
    (counted : ∀ ns issues, f = .storage ns (.corrupt issues) → Text.isSpellable issues = true) :
    ∃ lines, j.decodeFailure around f = .ok lines := by
  unfold Journal.decodeFailure
  split
  · rename_i ns issues
    have number : legible ("error_count", .int issues) = true := by
      simp [legible, Json.isWritable, counted ns issues rfl, joinedNames]
    refine takesLegible j _ outer (legiblePutAll ?_ legibleNone)
    simpa [Legible, legibleText] using number
  · exact ⟨[], rfl⟩

end

end Audit

def Host.console (bound : Audit.Fields) : Host where
  journal := .written .trial
  around := { active := "", fields := bound, time := "" }

def Service.console : Service where
  ns := "xyz"
  logger := .ofService (.written .trial) logName Audit.defaultComponent "xyz"

end Handover

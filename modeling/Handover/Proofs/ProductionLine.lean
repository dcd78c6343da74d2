import Handover.Audit.Attribution
import Handover.Proofs.WrittenValue

/-!
Lines of a production log. Whatever texts an entry carries, it comes to one line of visible ASCII
characters, and the line reads back as the fields that the entry is due: its own, those that its logger
and its surroundings have bound, and the stamps where none of these took their name.
-/
namespace Handover

namespace Json

def Visible (c : Char) : Prop := 0x20 ≤ c.toNat ∧ c.toNat < 0x7F

instance (c : Char) : Decidable (Visible c) := inferInstanceAs (Decidable (_ ∧ _))

theorem hexDigitsVisible (width n : Nat) : ∀ c ∈ Text.hexDigits width n, Visible c := by
  have digit : ∀ d < 16, Visible (Nat.digitChar d) := by decide
  induction width generalizing n with
  | zero => simp [Text.hexDigits]
  | succ width ih =>
    intro c member
    rcases List.mem_append.mp member with front | last
    · exact ih _ c front
    · rw [List.mem_singleton.mp last]
      exact digit _ (Nat.mod_lt _ (by decide))

theorem unitVisible (n : Nat) : ∀ c ∈ unitEscape n, Visible c := by
  rw [unitEscape, List.forall_mem_cons, List.forall_mem_cons]
  exact ⟨by decide, by decide, hexDigitsVisible 4 n⟩

theorem escapeVisible (c : Char) : ∀ x ∈ escapeChar true c, Visible x := by
  have marked (letter : Char) (visible : Visible letter) : ∀ x ∈ ['\\', letter], Visible x := by
    simpa using ⟨(by decide : Visible '\\'), visible⟩
  simp only [escapeChar]
  split
  case isTrue special =>
    rcases (by simpa using special : c = '"' ∨ c = '\\') with rfl | rfl <;> exact marked _ (by decide)
  split
  case isTrue => exact marked 'n' (by decide)
  split
  case isTrue => exact marked 'r' (by decide)
  split
  case isTrue => exact marked 't' (by decide)
  split
  case isTrue => exact marked 'b' (by decide)
  split
  case isTrue => exact marked 'f' (by decide)
  split
  case isTrue => exact unitVisible _
  split
  case isTrue solid kept =>
    have high : c.toNat < 0x7F := by simpa using kept
    intro x same
    rw [List.mem_singleton.mp same]
    exact ⟨by omega, high⟩
  split
  case isTrue => exact unitVisible _
  case isFalse => exact List.forall_mem_append.mpr ⟨unitVisible _, unitVisible _⟩

theorem quotedVisible (cs : List Char) : ∀ c ∈ quoteChars true cs, Visible c := by
  have inside : ∀ c ∈ cs.flatMap (escapeChar true), Visible c := by
    intro c member
    obtain ⟨own, -, escaped⟩ := List.mem_flatMap.mp member
    exact escapeVisible own c escaped
  have mark : Visible '"' := by decide
  exact List.forall_mem_append.mpr
    ⟨List.forall_mem_cons.mpr ⟨mark, inside⟩, List.forall_mem_cons.mpr ⟨mark, by simp⟩⟩

theorem intVisible (n : Int) : ∀ c ∈ intChars n, Visible c := by
  have digits : ∀ c ∈ Nat.toDigits 10 n.natAbs, Visible c := by
    intro c member
    have digit := Nat.isDigit_of_mem_toDigits (by decide) (by decide) member
    have range : 48 ≤ c.toNat ∧ c.toNat ≤ 57 := by
      simpa [Char.isDigit, UInt32.le_iff_toNat_le] using digit
    exact ⟨by omega, by omega⟩
  unfold intChars
  split
  · exact List.forall_mem_cons.mpr ⟨by decide, digits⟩
  · exact digits

def Scalar : Json → Prop
  | .null | .bool _ | .int _ | .string _ => True
  | _ => False

section
variable {j : Json} {members : List (String × Json)}

theorem scalarVisible (scalar : j.Scalar) : ∀ c ∈ chars spaced j, Visible c := by
  cases j with
  | null => rw [chars]; simp [spaced, Visible]
  | bool b => cases b <;> rw [chars] <;> simp [spaced, Visible]
  | int n => rw [chars]; exact intVisible n
  | string s => rw [chars]; exact quotedVisible s.toList
  | _ => exact scalar.elim

theorem membersVisible (scalars : ∀ f ∈ members, f.2.Scalar) (first : Bool) :
    ∀ c ∈ memberChars spaced first members, Visible c := by
  induction members generalizing first with
  | nil => simp [memberChars]
  | cons f rest ih =>
    obtain ⟨scalar, others⟩ := List.forall_mem_cons.mp scalars
    have between : ∀ c ∈ if first then [] else spaced.betweenItems.toList, Visible c := by
      cases first <;> simp [spaced, Visible]
    have after : ∀ c ∈ spaced.afterKey.toList, Visible c := by simp [spaced, Visible]
    simp only [memberChars, List.forall_mem_append]
    exact ⟨⟨⟨⟨between, quotedVisible _⟩, after⟩, scalarVisible scalar⟩, ih others false⟩

theorem objectVisible (scalars : ∀ f ∈ members, f.2.Scalar) :
    ∀ c ∈ ((Json.object members).write spaced).toList, Visible c := by
  rw [write, String.toList_ofList, chars, List.forall_mem_append, List.forall_mem_cons]
  have close : ∀ c ∈ ['\x7d'], Visible c := by simp [Visible]
  exact ⟨⟨by decide, membersVisible scalars true⟩, close⟩

def Short (lim : Limits) (j : Json) : Prop :=
  ∀ n, j = .int n → (Nat.toDigits 10 n.natAbs).length ≤ lim.digits

theorem writableShort {lim : Limits} (writable : j.isWritable = true)
    (digits : Text.maxDigits ≤ lim.digits) :
    j.Short lim := by
  rintro n rfl
  exact Nat.le_trans (of_decide_eq_true writable) digits

theorem scalarFits {lim : Limits} (scalar : j.Scalar) (short : j.Short lim) (depth : Nat) :
    Fits lim depth j := by
  cases j with
  | int n => simpa [Fits] using short n rfl
  | _ => first | exact scalar.elim | simp [Fits]

theorem membersScalarFit {lim : Limits} (scalars : ∀ f ∈ members, f.2.Scalar)
    (shorts : ∀ f ∈ members, f.2.Short lim) (depth : Nat) : MembersFit lim depth members := by
  induction members with
  | nil => simp [MembersFit]
  | cons f rest ih =>
    obtain ⟨scalar, others⟩ := List.forall_mem_cons.mp scalars
    obtain ⟨short, shorter⟩ := List.forall_mem_cons.mp shorts
    rw [MembersFit]
    exact ⟨scalarFits scalar short depth, ih others shorter⟩

theorem sortScalar (scalar : j.Scalar) : j.sortMembers = j := by
  cases j with
  | array items => exact scalar.elim
  | object inner => exact scalar.elim
  | _ => simp [sortMembers]

theorem sortScalars (scalars : ∀ f ∈ members, f.2.Scalar) : sortEach members = members := by
  induction members with
  | nil => rfl
  | cons f rest ih =>
    obtain ⟨scalar, others⟩ := List.forall_mem_cons.mp scalars
    rw [sortEach, sortScalar scalar, ih others]

theorem sortedObject (scalars : ∀ f ∈ members, f.2.Scalar) :
    (Json.object members).sortMembers = .object (Table.sorted members) := by
  rw [sortMembers, sortScalars scalars]

theorem sortedScalar (scalars : ∀ f ∈ members, f.2.Scalar) : ∀ f ∈ Table.sorted members, f.2.Scalar :=
  fun f member => scalars f ((Table.sortedPerm members).mem_iff.mp member)

theorem sortedRead {lim : Limits} (unique : (members.map Prod.fst).Nodup)
    (scalars : ∀ f ∈ members, f.2.Scalar) (shorts : ∀ f ∈ members, f.2.Short lim)
    (deep : 0 < lim.depth) :
    read? lim ((Json.object (Table.sorted members)).write spaced) =
      some (.object (Table.sorted members)) := by
  have perm := Table.sortedPerm members
  have fits (depth : Nat) : MembersFit lim depth (Table.sorted members) :=
    membersScalarFit (sortedScalar scalars) (fun f member => shorts f (perm.mem_iff.mp member)) depth
  obtain ⟨depth, level⟩ := Nat.exists_eq_succ_of_ne_zero (Nat.ne_of_gt deep)
  refine readWritten spacedReadable lim _ ?_
  rw [level, Fits]
  exact ⟨(perm.map Prod.fst).nodup_iff.mpr unique, fits depth⟩

end

end Json

namespace Audit

/-- Fields as a caller may hand them to a log: a table of scalars that does not ask for a trace. -/
structure Admissible (fields : Fields) : Prop where
  unique : (fields.map Prod.fst).Nodup
  scalar : ∀ f ∈ fields, f.2.Scalar
  untraced : ∀ f ∈ fields, f.1 ≠ traceRequest

def stamp? (settings : Settings) (around : Surroundings) (name : String) : Option Json :=
  if name = "namespace" then some (.string settings.ns)
  else if name = "correlation_id" ∧ around.active ≠ "" then some (.string around.active)
  else none

namespace Logger

def told? (l : Logger) (around : Surroundings) (fields : Fields) (name : String) : Option Json :=
  ((Table.get? name fields).or (Table.get? name l.fields)).or (Table.get? name around.fields)

def due? (l : Logger) (settings : Settings) (around : Surroundings) (level : Level) (event : String)
    (fields : Fields) (name : String) : Option Json :=
  if name = "timestamp" then some (.string around.time)
  else if name = "level" then some (.string level.name)
  else if name = "event" then some (.string event)
  else (l.told? around fields name).or (stamp? settings around name)

end Logger

section
variable {l : Logger} {settings : Settings} {around : Surroundings} {level : Level} {event : String}
  {fields : Fields}

theorem stampUnique {active : String} (unique : (fields.map Prod.fst).Nodup) :
    ((Correlation.stamp active fields).map Prod.fst).Nodup := by
  unfold Correlation.stamp
  split
  · exact unique
  · exact Table.putNewUnique _ unique

theorem getStamp (active name : String) (fields : Fields) :
    Table.get? name (Correlation.stamp active fields) = (Table.get? name fields).or
      (if name = "correlation_id" ∧ active ≠ "" then some (.string active) else none) := by
  unfold Correlation.stamp
  split
  · rename_i inactive
    rw [if_neg fun both => both.2 inactive, Option.or_none]
  · rename_i active
    rw [Table.getPutNew]
    simp only [ne_eq, active, not_false_eq_true, and_true]

theorem completeUnique (e : Entry) (unique : (around.fields.map Prod.fst).Nodup) :
    ((complete settings around e).map Prod.fst).Nodup := by
  have merged : ((Table.put "level" (.string e.level.name)
      (Table.putAll e.members around.fields)).map Prod.fst).Nodup :=
    Table.putUnique _ (Table.putAllUnique e.members unique)
  exact Table.putUnique _ (stampUnique (Table.putNewUnique _ merged))

theorem getComplete (e : Entry) (unique : (e.fields.map Prod.fst).Nodup) (name : String) :
    Table.get? name (complete settings around e) =
      if name = "timestamp" then some (.string around.time)
      else if name = "level" then some (.string e.level.name)
      else if name = "event" then some (.string e.event)
      else ((Table.get? name e.fields).or (Table.get? name around.fields)).or
        (stamp? settings around name) := by
  have members : (e.members.map Prod.fst).Nodup := Table.putUnique _ unique
  have stamps (given? : Option Json) :
      (if name = "namespace" then some (.string settings.ns) else none).or given? =
        if name = "namespace" then some (.string settings.ns) else given? := by
    split <;> rfl
  simp only [complete, Table.getPut, getStamp, Table.getPutNew]
  rw [Table.getPutAllUnique _ _ members, Entry.members, Table.getPut, Option.or_assoc, stamps]
  unfold stamp?
  -- what is put last is looked at first
  split
  · rfl
  split
  · rfl
  split <;> rfl

theorem getLogged (bound : Admissible l.fields) (given : Admissible fields) (name : String) :
    Table.get? name (complete settings around (l.entry level event fields)) =
      l.due? settings around level event fields name := by
  rw [Logger.entry, getComplete _ (Table.putAllUnique _ bound.unique), Table.getPutAllUnique _ _ given.unique]
  rfl

def stampNames : List String := ["timestamp", "level", "event", "namespace", "correlation_id"]

section
variable (bound : Admissible l.fields) (context : Admissible around.fields) (given : Admissible fields)
include bound context given

theorem dueFrom {name : String} {j : Json}
    (due : l.due? settings around level event fields name = some j) :
    (name ∈ stampNames ∧ ∃ s, j = .string s) ∨ (name, j) ∈ fields ++ l.fields ++ around.fields := by
  have made {s : String} (own : name ∈ stampNames) (same : some (Json.string s) = some j) :
      name ∈ stampNames ∧ ∃ s, j = .string s := ⟨own, s, (Option.some.inj same).symm⟩
  unfold Logger.due? at due
  split at due
  case isTrue time => exact Or.inl (made (by simp [time, stampNames]) due)
  split at due
  case isTrue level => exact Or.inl (made (by simp [level, stampNames]) due)
  split at due
  case isTrue event => exact Or.inl (made (by simp [event, stampNames]) due)
  rcases Option.or_eq_some_iff.mp due with told | ⟨-, stamped⟩
  · refine Or.inr ?_
    unfold Logger.told? at told
    rw [List.mem_append, List.mem_append]
    rcases Option.or_eq_some_iff.mp told with near | ⟨-, around⟩
    · rcases Option.or_eq_some_iff.mp near with own | ⟨-, held⟩
      · exact Or.inl (Or.inl ((Table.getMember given.unique).mp own))
      · exact Or.inl (Or.inr ((Table.getMember bound.unique).mp held))
    · exact Or.inr ((Table.getMember context.unique).mp around)
  · refine Or.inl ?_
    unfold stamp? at stamped
    split at stamped
    case isTrue ns => exact made (by simp [ns, stampNames]) stamped
    split at stamped
    case isTrue active => exact made (by simp [active.1, stampNames]) stamped
    cases stamped

theorem completeFrom {f : String × Json}
    (member : f ∈ complete settings around (l.entry level event fields)) :
    (f.1 ∈ stampNames ∧ ∃ s, f.2 = .string s) ∨ f ∈ fields ++ l.fields ++ around.fields := by
  have held := (Table.getMember (completeUnique _ context.unique)).mpr member
  rw [getLogged bound given] at held
  exact dueFrom bound context given held

theorem completeAdmissible :
    Admissible (complete settings around (l.entry level event fields)) := by
  have told : ∀ f ∈ fields ++ l.fields ++ around.fields, f.2.Scalar ∧ f.1 ≠ traceRequest := by
    intro f member
    rw [List.mem_append, List.mem_append] at member
    rcases member with (own | logger) | outer
    · exact ⟨given.scalar f own, given.untraced f own⟩
    · exact ⟨bound.scalar f logger, bound.untraced f logger⟩
    · exact ⟨context.scalar f outer, context.untraced f outer⟩
  refine ⟨completeUnique _ context.unique, fun f member => ?_, fun f member => ?_⟩
  · rcases completeFrom bound context given member with ⟨-, s, text⟩ | handed
    · rw [text]
      trivial
    · exact (told f handed).1
  · rcases completeFrom bound context given member with ⟨stamped, -⟩ | handed
    · exact fun asked => absurd (asked ▸ stamped) (by decide)
    · exact (told f handed).2

end

section
variable (admissible : Admissible fields)
include admissible

theorem machineFieldsOf : machineFields none fields = fields :=
  List.filter_eq_self.mpr fun f member => by simpa using admissible.untraced f member

theorem machineLineOf : machineLine none fields =
    if writable fields then .ok ((Json.object (Table.sorted fields)).write Json.spaced)
    else .error .overlong := by
  rw [machineLine, machineFieldsOf admissible, Json.sortedObject admissible.scalar]

end

/-- Fields as the caller of a log may name them: none is a parameter of the calls that carry it. -/
def Free (fields : Fields) : Prop := ∀ f ∈ fields, f.1 ∉ innerParameter :: outerParameters

theorem callFree (free : Free fields) :
    l.call around level event fields = (l.log around level event fields).mapError Loss.failure := by
  have outer : fields.find? (fun f => outerParameters.contains f.1) = none := by
    rw [List.find?_eq_none]
    intro f member named
    exact free f member (List.mem_cons_of_mem _ (List.contains_iff_mem.mp named))
  have inner : (fields.any fun f => f.1 == innerParameter) = false := by
    rw [List.any_eq_false]
    intro f member named
    exact free f member (by rw [beq_iff_eq.mp named]; exact List.mem_cons_self)
  have once (shown : Bool) : givenTwice? shown fields = none := by
    rw [givenTwice?, outer]
    simp only [inner, Bool.and_false, Bool.false_eq_true, if_false]
  rw [Logger.call, once]

section
variable (production : settings.isProduction = true) (written : l.journal = .written settings)
include production written

theorem loggedLine (fields : Fields) :
    l.log around level event fields =
      if level.number < settings.threshold.number then .ok []
      else (machineLine none (complete settings around (l.entry level event fields))).map
        fun s => [.text s] := by
  rw [Logger.log, written]
  simp only [Journal.take, production, if_true]
  rfl

variable (bound : Admissible l.fields) (context : Admissible around.fields) (given : Admissible fields)
  (free : Free fields)
include bound context given free

theorem calledLine (enough : settings.threshold.number ≤ level.number) :
    l.call around level event fields =
      if writable (complete settings around (l.entry level event fields)) then
        .ok [.text ((Json.object (Table.sorted
          (complete settings around (l.entry level event fields)))).write Json.spaced)]
      else .error (.misfit .overlong) := by
  rw [callFree free, loggedLine production written, if_neg (Nat.not_lt.mpr enough),
    machineLineOf (completeAdmissible bound context given)]
  split <;> rfl

theorem overlongUnprinted (enough : settings.threshold.number ≤ level.number) {name : String} {j : Json}
    (held : l.due? settings around level event fields name = some j) (overlong : j.isWritable = false) :
    l.call around level event fields = .error (.misfit .overlong) := by
  have whole : Admissible (complete settings around (l.entry level event fields)) :=
    completeAdmissible bound context given
  have member : (name, j) ∈ complete settings around (l.entry level event fields) :=
    (Table.getMember whole.unique).mp ((getLogged bound given name).trans held)
  rw [calledLine production written bound context given free enough, if_neg]
  intro all
  rw [List.all_eq_true.mp all _ member] at overlong
  cases overlong

end

end

def forger : Logger where
  journal := .written .standard
  fields := [("sender", .string "eve\"\n\x7b\"level\": \"critical\"\x7d"), ("namespace", .null)]

def forgedFrom : Surroundings where
  active := "c-1"
  fields := [("sender", .string "peter"), ("tries", .int (-3))]
  time := "noon"

theorem forgerAdmissible : Admissible forger.fields ∧ Admissible forgedFrom.fields :=
  ⟨⟨by decide, by simp [forger, Json.Scalar], by decide⟩,
    ⟨by decide, by simp [forgedFrom, Json.Scalar], by decide⟩⟩

end Audit

end Handover

import Handover.Proofs.IntegerText
import Handover.Settings

/-!
Settings from an environment. Each variable is read on its own and has a default for what cannot be read, so
only the two bounds can keep the settings from being built, and a variable reaches no field but its own.
-/
namespace Handover.Settings

inductive Variable
  | ns
  | least
  | most
  | environment
  | level
  deriving DecidableEq, Repr

namespace Variable

def name : Variable → String
  | ns => "SECURE_ADMIN_NAMESPACE"
  | least => "SECURE_ADMIN_IDENTITY_MIN_LENGTH"
  | most => "SECURE_ADMIN_IDENTITY_MAX_LENGTH"
  | environment => "SECURE_ADMIN_ENV"
  | level => "SECURE_ADMIN_LOG_LEVEL"

def value (env : Environment) (v : Variable) : Option String := Table.get? v.name env

end Variable

structure MeansText (value t : String) : Prop where
  trims : Text.Trims Text.isBlank value.toList t.toList
  filled : t ≠ ""

inductive MeansLevel : String → Threshold → Prop
  | mk {value t : String} {n : Nat} (text : MeansText value t) (known : (Text.upper t, n) ∈ levelNumbers) :
    MeansLevel value ⟨Text.upper t, n⟩

inductive ReadOr {α : Type} (Means : String → α → Prop) (default : α) : Option String → α → Prop
  | given {value : String} {a : α} (means : Means value a) : ReadOr Means default (some value) a
  | unset : ReadOr Means default none default
  | silent {value : String} (nothing : ∀ a, ¬ Means value a) : ReadOr Means default (some value) default

section
variable {α : Type} {Means : String → α → Prop} {said? : String → Option α} {default a a' : α}
  {value value' : Option String}

theorem readIff (said : ∀ {value a}, said? value = some a ↔ Means value a) :
    ReadOr Means default value a ↔ a = (value.bind said?).getD default := by
  constructor
  · intro read
    cases read with
    | given means => simp [said.mpr means]
    | unset => rfl
    | @silent value nothing =>
      have none : said? value = none :=
        Option.eq_none_iff_forall_ne_some.mpr fun a found => nothing a (said.mp found)
      simp [none]
  · rintro rfl
    cases value with
    | none => exact .unset
    | some value =>
      rw [Option.bind_some]
      cases found : said? value with
      | some a => exact .given (said.mp found)
      | none =>
        refine .silent fun a means => ?_
        rw [said.mpr means] at found
        cases found

theorem readApart (read : ∀ x, ReadOr Means default value x ↔ x = a)
    (read' : ∀ x, ReadOr Means default value' x ↔ x = a') (same : value = value') : a = a' := by
  subst same
  exact (read' a).mp ((read a).mpr rfl)

end

def text? (value : String) : Option String :=
  if Text.trim value = "" then none else some (Text.trim value)

def level? (t : String) : Option Threshold := (levelNumber? (Text.upper t)).map (⟨Text.upper t, ·⟩)

theorem textSaid {value t : String} : text? value = some t ↔ MeansText value t := by
  have trimmed {u : String} : Text.trim value = u ↔ Text.Trims Text.isBlank value.toList u.toList :=
    Text.trimIff
  unfold text?
  split
  · rename_i empty
    constructor
    · intro found
      cases found
    · rintro ⟨trims, filled⟩
      exact absurd ((trimmed.mpr trims).symm.trans empty) filled
  · rename_i filled
    constructor
    · rintro ⟨⟩
      exact ⟨trimmed.mp rfl, filled⟩
    · rintro ⟨trims, -⟩
      rw [trimmed.mpr trims]

theorem levelsUnique : (levelNumbers.map Prod.fst).Nodup := by decide

theorem levelIff {t : String} {n : Nat} : levelNumber? t = some n ↔ (t, n) ∈ levelNumbers :=
  Table.getMember levelsUnique

theorem levelsRaised : ∀ level ∈ levelNumbers, Text.upper level.1 = level.1 := by decide +kernel

theorem levelSaid {value : String} {level : Threshold} :
    (text? value).bind level? = some level ↔ MeansLevel value level := by
  constructor
  · intro found
    obtain ⟨t, text, named⟩ := Option.bind_eq_some_iff.mp found
    obtain ⟨n, number, rfl⟩ := Option.map_eq_some_iff.mp named
    exact .mk (textSaid.mp text) (levelIff.mp number)
  · rintro ⟨text, known⟩
    rw [textSaid.mpr text, Option.bind_some, level?, levelIff.mpr known, Option.map_some]

section
variable (env : Environment) (name : String)

theorem textOfRead (default : String) :
    textOf env name default = ((Table.get? name env).bind text?).getD default := by
  unfold textOf
  cases Table.get? name env with
  | none => rfl
  | some value =>
    change (if Text.trim value = "" then default else Text.trim value) = (text? value).getD default
    unfold text?
    split <;> rfl

theorem levelOfRead : Threshold.ofName? (levelOf env name "INFO") =
    some (((Table.get? name env).bind fun value => (text? value).bind level?).getD ⟨"INFO", 20⟩) := by
  have info : Threshold.ofName? "INFO" = some ⟨"INFO", 20⟩ := by decide
  rw [levelOf, textOfRead, ← Option.bind_assoc]
  cases (Table.get? name env).bind text? with
  | none => decide
  | some t =>
    rw [Option.bind_some, Option.getD_some, level?]
    cases number : levelNumber? (Text.upper t) with
    | none => exact info
    | some n =>
      have raised := levelsRaised _ (levelIff.mp number)
      rw [Option.isSome_some, if_pos rfl, Threshold.ofName?, raised, number]
      rfl

end

theorem textTidy {default t : String} {value : Option String} (read : ReadOr MeansText default value t)
    (filled : default ≠ "") (tidy : Text.isTrimmed default = true) :
    t ≠ "" ∧ Text.isTrimmed t = true := by
  cases read with
  | unset => exact ⟨filled, tidy⟩
  | silent nothing => exact ⟨filled, tidy⟩
  | given means =>
    refine ⟨means.filled, Text.trimmedIff.mpr ?_⟩
    rintro c (first | last)
    · exact means.trims.first c first
    · exact means.trims.last c last

structure ReadFrom (env : Environment) (s : Settings) : Prop where
  ns : ∀ t, ReadOr MeansText "admin" (Variable.ns.value env) t ↔ t = s.ns
  least : ∀ n, ReadOr Text.Denotes 3 (Variable.least.value env) n ↔ n = s.bounds.least
  most : ∀ n, ReadOr Text.Denotes 64 (Variable.most.value env) n ↔ n = s.bounds.most
  environment : ∀ t, ReadOr MeansText "production" (Variable.environment.value env) t ↔ t = s.environment
  threshold : ∀ t, ReadOr MeansLevel ⟨"INFO", 20⟩ (Variable.level.value env) t ↔ t = s.threshold

structure AlikeBut (v : Variable) (s t : Settings) : Prop where
  ns : v ≠ .ns → s.ns = t.ns
  least : v ≠ .least → s.bounds.least = t.bounds.least
  most : v ≠ .most → s.bounds.most = t.bounds.most
  environment : v ≠ .environment → s.environment = t.environment
  threshold : v ≠ .level → s.threshold = t.threshold

theorem alikeBut {env env' : Environment} {v : Variable} {s s' : Settings} (read : ReadFrom env s)
    (read' : ReadFrom env' s') (same : ∀ w, w ≠ v → w.value env = w.value env') : AlikeBut v s s' where
  ns other := readApart read.ns read'.ns (same _ other.symm)
  least other := readApart read.least read'.least (same _ other.symm)
  most other := readApart read.most read'.most (same _ other.symm)
  environment other := readApart read.environment read'.environment (same _ other.symm)
  threshold other := readApart read.threshold read'.threshold (same _ other.symm)

theorem built (env : Environment) :
    let least := integerOf env Variable.least.name 3
    let most := integerOf env Variable.most.name 64
    ((∃ e, ofEnvironment env = .error e) ↔ least < 1 ∨ most < least) ∧
      ((∃ s, ofEnvironment env = .ok s) ↔ 1 ≤ least ∧ least ≤ most) ∧
      ∀ s, ofEnvironment env = .ok s → ReadFrom env s := by
  intro least most
  let ns := textOf env Variable.ns.name "admin"
  let environment := textOf env Variable.environment.name "production"
  have text (v : Variable) (default t : String) :
      ReadOr MeansText default (v.value env) t ↔ t = textOf env v.name default := by
    rw [textOfRead]
    exact readIff textSaid
  have filled : ns ≠ "" := (textTidy ((text .ns "admin" ns).mpr rfl) (by decide) (by decide)).1
  have drafted : ofEnvironment env = ofDraft
    ⟨ns, least, most, environment, levelOf env Variable.level.name "INFO"⟩ := rfl
  rw [drafted, ofDraft]
  simp only [if_neg filled, levelOfRead]
  by_cases low : least < 1
  · simp [low, Int.not_le.mpr low]
  by_cases crossed : most < least
  · simp [low, crossed, Int.not_le.mpr crossed]
  rw [dif_neg low, dif_neg crossed]
  refine ⟨by simp [low, crossed], by simp [Int.not_lt.mp low, Int.not_lt.mp crossed], ?_⟩
  rintro s ⟨⟩
  exact ⟨text .ns _, fun n => readIff Text.integerRead, fun n => readIff Text.integerRead,
    text .environment _, fun t => readIff levelSaid⟩

/-- Settings fail to be built from an environment just if the bounds that are read from it do not fit each
other. Those that are built hold in each field what its variable says, and a variable changes no other
field. -/
theorem environmentRead (env : Environment) :
    ∃ least most : Int, (∀ n, ReadOr Text.Denotes 3 (Variable.least.value env) n ↔ n = least) ∧
      (∀ n, ReadOr Text.Denotes 64 (Variable.most.value env) n ↔ n = most) ∧
      ((∃ e, ofEnvironment env = .error e) ↔ least < 1 ∨ most < least) ∧
      ((∃ s, ofEnvironment env = .ok s) ↔ 1 ≤ least ∧ least ≤ most) ∧
      (∀ s, ofEnvironment env = .ok s → ReadFrom env s ∧
        (s.ns ≠ "" ∧ Text.isTrimmed s.ns = true) ∧
        (s.environment ≠ "" ∧ Text.isTrimmed s.environment = true)) ∧
      ∀ (v : Variable) (env' : Environment), (∀ w, w ≠ v → w.value env = w.value env') →
        ∀ s s', ofEnvironment env = .ok s → ofEnvironment env' = .ok s' → AlikeBut v s s' := by
  obtain ⟨refused, made, read⟩ := built env
  refine ⟨_, _, fun n => readIff Text.integerRead, fun n => readIff Text.integerRead, refused, made,
    fun s done => ⟨read s done, ?_, ?_⟩, ?_⟩
  · exact textTidy (((read s done).ns _).mpr rfl) (by decide) (by decide)
  · exact textTidy (((read s done).environment _).mpr rfl) (by decide) (by decide)
  · intro v env' same s s' first second
    obtain ⟨-, -, read'⟩ := built env'
    exact alikeBut (read s first) (read' s' second) same

end Handover.Settings

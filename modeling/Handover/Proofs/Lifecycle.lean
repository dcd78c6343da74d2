import Handover.Proofs.Course

/-!
The life of a role. It is given up at the start, or an admin is set once and the role changes hands
until it may be given up. After that nothing more is taken: a request of the right family is refused
because the role is abolished, before anybody asks who calls, and its bytes stay for good.
-/
namespace Handover

namespace Mutation

def establishes : Mutation → Bool
  | .establish _ => true
  | .update .. => false

def handsOver : Mutation → Bool
  | .update _ (.proposeNewAdmin _) | .update _ .clearProposed | .update _ .acceptProposed => true
  | _ => false

end Mutation

/-- Whole lives of a role: given up by whoever starts it, or led by admins and perhaps given up. -/
inductive Life : List Mutation → Prop
  | forgone : Life [.establish .abolishAdminRole]
  | led (raw : Json) {changes : List Mutation} (only : ∀ m ∈ changes, m.handsOver = true) :
    Life (.establish (.setInitialAdmin raw) :: changes)
  | ended (raw : Json) {changes : List Mutation} (only : ∀ m ∈ changes, m.handsOver = true)
    (caller : Option Party) :
    Life (.establish (.setInitialAdmin raw) :: (changes ++ [.update caller .abolishAdminRole]))

theorem leadsVacant {past : List Mutation} (led : Leads past .vacant) : past = [] := by
  cases led with
  | nil => rfl
  | snoc _ moved => cases moved

theorem leadsHeld {past : List Mutation} {s : State} (led : Leads past s) (held : s.admin ≠ none) :
    ∃ raw changes, (∀ m ∈ changes, Mutation.handsOver m = true) ∧
      past = .establish (.setInitialAdmin raw) :: changes := by
  induction led with
  | nil => exact (held rfl).elim
  | @snoc past s next m led moved ih =>
    -- a change of hands extends what the history was before it
    have extend (before : s.admin ≠ none) (hands : m.handsOver = true) :
        ∃ raw changes, (∀ m ∈ changes, Mutation.handsOver m = true) ∧
          past ++ [m] = .establish (.setInitialAdmin raw) :: changes := by
      obtain ⟨raw, changes, only, rfl⟩ := ih before
      refine ⟨raw, changes ++ [m], ?_, rfl⟩
      intro m' member
      rcases List.mem_append.mp member with old | new
      · exact only m' old
      · rw [List.mem_singleton.mp new]
        exact hands
    cases moved with
    | begin admin =>
      rw [leadsVacant led]
      exact ⟨_, [], by simp, rfl⟩
    | forgo => exact (held rfl).elim
    | propose admin proposed before => exact extend (by simp [before]) rfl
    | clear admin before => exact extend (by simp [before]) rfl
    | accept admin successor => exact extend (by simp [State.admin]) rfl
    | abolish admin before => exact (held rfl).elim

theorem leadsAbolished {past : List Mutation} (led : Leads past .abolished) :
    past = [.establish .abolishAdminRole] ∨
      ∃ raw changes caller, (∀ m ∈ changes, Mutation.handsOver m = true) ∧
        past = .establish (.setInitialAdmin raw) :: (changes ++ [.update caller .abolishAdminRole]) := by
  cases led with
  | snoc led moved =>
    cases moved with
    | forgo =>
      rw [leadsVacant led]
      exact Or.inl rfl
    | abolish admin held =>
      obtain ⟨raw, changes, only, rfl⟩ := leadsHeld led (by simp [held])
      exact Or.inr ⟨raw, changes, _, only, rfl⟩

theorem leadsLife {past : List Mutation} {s : State} (led : Leads past s) : past = [] ∨ Life past := by
  rcases State.phases (leadsFilled led) with rfl | held | rfl
  · exact Or.inl (leadsVacant led)
  · obtain ⟨raw, changes, only, rfl⟩ := leadsHeld led held
    exact Or.inr (.led raw only)
  · rcases leadsAbolished led with rfl | ⟨raw, changes, caller, only, rfl⟩
    · exact Or.inr .forgone
    · exact Or.inr (.ended raw only caller)

theorem handsOverUpdates {m : Mutation} (hands : m.handsOver = true) :
    m.establishes = false ∧ m.request ≠ .abolishAdminRole := by
  cases m with
  | establish r => cases hands
  | update caller r =>
    refine ⟨rfl, ?_⟩
    intro abolishes
    simp only [Mutation.request] at abolishes
    subst abolishes
    cases hands

theorem lifeStarts {whole : List Mutation} (life : Life whole) :
    ∃ first rest, whole = first :: rest ∧ first.establishes = true ∧
      ∀ m ∈ rest, m.establishes = false := by
  cases life with
  | forgone => exact ⟨_, [], rfl, rfl, by simp⟩
  | led raw only => exact ⟨_, _, rfl, rfl, fun m member => (handsOverUpdates (only m member)).1⟩
  | ended raw only caller =>
    refine ⟨_, _, rfl, rfl, fun m member => ?_⟩
    rcases List.mem_append.mp member with change | last
    · exact (handsOverUpdates (only m change)).1
    · rw [List.mem_singleton.mp last]
      rfl

theorem startsOnce {past : List Mutation} {s : State} (led : Leads past s) :
    past.countP Mutation.establishes ≤ 1 ∧ ∀ m ∈ past.head?, m.establishes = true := by
  rcases leadsLife led with rfl | life
  · simp
  · obtain ⟨first, rest, rfl, starts, updates⟩ := lifeStarts life
    have none : rest.countP Mutation.establishes = 0 := by
      rw [List.countP_eq_zero]
      intro m member
      simp [updates m member]
    constructor
    · rw [List.countP_cons, none, starts]
      simp
    · intro m head
      simp only [List.head?_cons, Option.mem_some] at head
      rw [← head]
      exact starts

theorem abolishedIff {past : List Mutation} {s : State} (led : Leads past s) :
    s = .abolished ↔ ∃ m ∈ past, m.request = .abolishAdminRole := by
  constructor
  · intro abolished
    subst abolished
    rcases leadsAbolished led with rfl | ⟨raw, changes, caller, -, rfl⟩
    · exact ⟨_, List.mem_singleton_self _, rfl⟩
    · exact ⟨.update caller .abolishAdminRole, by simp, rfl⟩
  · intro ⟨m, member, abolishes⟩
    rcases State.phases (leadsFilled led) with rfl | held | rfl
    · rw [leadsVacant led] at member
      cases member
    · obtain ⟨raw, changes, only, rfl⟩ := leadsHeld led held
      rcases List.mem_cons.mp member with rfl | change
      · cases abolishes
      · exact ((handsOverUpdates (only m change)).2 abolishes).elim
    · rfl

/-- Abolition is looked at before the caller, the admin in place and the payload. -/
theorem abolishedVerdict {c : Call} (inside : c.asked.supported = true) :
    c.verdict .abolished = .error (.fault .abolished) := by
  rw [Call.verdict, if_pos inside]
  cases asked : c.asked <;> rfl

namespace Course

theorem bytesNext {calls : List Call} {ns : String} (c : Call)
    (gone : (run calls).stateAt ns = .ok .abolished) :
    (run (calls ++ [c])).bytes? ns = (run calls).bytes? ns ∧
      (run (calls ++ [c])).stateAt ns = .ok .abolished := by
  by_cases here : c.service.ns = ns
  · subst here
    have refused : ∃ e, c.verdict .abolished = .error e := by
      by_cases inside : c.asked.supported = true
      · exact ⟨_, abolishedVerdict inside⟩
      · exact ⟨_, by rw [Call.verdict, if_neg inside]⟩
    obtain ⟨e, refused⟩ := refused
    rw [runRefused gone refused]
    exact ⟨rfl, gone⟩
  · obtain ⟨bytes, state⟩ := runElsewhere c (Ne.symm here)
    exact ⟨bytes, state.trans gone⟩

theorem bytesForever {calls : List Call} {ns : String} (later : List Call)
    (gone : (run calls).stateAt ns = .ok .abolished) :
    (run (calls ++ later)).bytes? ns = (run calls).bytes? ns ∧
      (run (calls ++ later)).stateAt ns = .ok .abolished := by
  induction later generalizing calls with
  | nil => simpa using gone
  | cons c rest ih =>
    obtain ⟨kept, still⟩ := bytesNext c gone
    obtain ⟨whole, final⟩ := ih still
    rw [List.append_assoc] at whole final
    exact ⟨whole.trans kept, final⟩

/-- The history of a namespace is the beginning of a life. Once the role is abolished its bytes stay, and
every call of the right family is refused because of that; it fails so if its log takes the refusal. -/
theorem lifeOfNamespace (calls : List Call) (ns : String) :
    (∃ whole, Life whole ∧ history ns calls <+: whole) ∧
    (history ns calls).countP Mutation.establishes ≤ 1 ∧
    (∀ m ∈ (history ns calls).head?, m.establishes = true) ∧
    ((∃ m ∈ history ns calls, m.request = .abolishAdminRole) ↔
      (run calls).stateAt ns = .ok .abolished) ∧
    ((∃ m ∈ history ns calls, m.request = .abolishAdminRole) → ∀ later : List Call,
      (run (calls ++ later)).bytes? ns = (run calls).bytes? ns ∧
      ∀ c : Call, c.service.ns = ns → c.asked.supported = true →
        c.outcome (run (calls ++ later)) = .error (.fault .abolished) ∧
        (c.Told (.error (.fault .abolished)) →
          c.answer (run (calls ++ later)) = .error (.fault .abolished))) := by
  obtain ⟨st, known, led⟩ := reached calls ns
  have abolished : (∃ m ∈ history ns calls, m.request = .abolishAdminRole) ↔
      (run calls).stateAt ns = .ok .abolished := by
    rw [← abolishedIff led, known, Except.ok.injEq]
  obtain ⟨once, first⟩ := startsOnce led
  refine ⟨?_, once, first, abolished, ?_⟩
  · rcases leadsLife led with none | life
    · exact ⟨_, .forgone, by rw [none]; exact List.nil_prefix⟩
    · exact ⟨_, life, List.prefix_refl _⟩
  · intro gone later
    obtain ⟨kept, still⟩ := bytesForever later (abolished.mp gone)
    refine ⟨kept, fun c here inside => ?_⟩
    have refused : c.outcome (run (calls ++ later)) = .error (.fault .abolished) := by
      rw [← here] at still
      exact (outcomeReached c still).trans (abolishedVerdict inside)
    refine ⟨refused, fun told => ?_⟩
    rw [Call.answerOutcome, refused, Call.answerTold told]
    rfl

def forgone : List Call := [Call.onConsole [] (.establish .abolishAdminRole)]

theorem forgoneTaken :
    (run forgone).stateAt "xyz" = .ok .abolished ∧
      history "xyz" forgone = [.establish .abolishAdminRole] := by
  have fresh : (run []).stateAt "xyz" = .ok .vacant := rfl
  have taken := runTaken (c := Call.onConsole [] (.establish .abolishAdminRole)) fresh rfl
  have past : history "xyz" forgone = history "xyz" [] ++ [.establish .abolishAdminRole] := taken.2
  exact ⟨taken.1, past⟩

theorem forgoneForGood :
    let later := [Call.onConsole [] (.establish (.setInitialAdmin (.string "peter")))]
    (run (forgone ++ later)).bytes? "xyz" = (run forgone).bytes? "xyz" ∧
      (Call.onConsole [] (.update none .acceptProposed)).answer (run (forgone ++ later)) =
        .error (.fault .abolished) := by
  intro later
  have gone : ∃ m ∈ history "xyz" forgone, m.request = .abolishAdminRole := by
    rw [forgoneTaken.2]
    exact ⟨_, List.mem_singleton_self _, rfl⟩
  obtain ⟨-, -, -, -, closed⟩ := lifeOfNamespace forgone "xyz"
  obtain ⟨bytes, calls⟩ := closed gone later
  have told : (Call.onConsole [] (.update none .acceptProposed)).Told (.error (.fault .abolished)) :=
    Call.toldLegible (Call.legibleConsole Audit.legibleNone) _
  exact ⟨bytes, (calls (Call.onConsole [] (.update none .acceptProposed)) rfl rfl).2 told⟩

end Course

end Handover

import Handover.Proofs.Trimming
import Handover.Settings

/-!
Canonical identities as a language. A raw value is one just if it is a text of the alphabet whose length is
within the bounds. All other values break a rule, and the first rule that they break is what they are refused
for. The rules on blanks and on case look at all of Unicode, but they reject no text of the alphabet.
-/
namespace Handover

namespace Text

/-- A lower case of a text: each character in the lower case of its own. A capital sigma may take the form
for the end of a word; where it does depends on its neighbours. -/
inductive Lowers : List Char → List Char → Prop
  | nil : Lowers [] []
  | char {c : Char} {cs ds : List Char} (rest : Lowers cs ds) : Lowers (c :: cs) (lowerChar c ++ ds)
  | lastSigma {cs ds : List Char} (rest : Lowers cs ds) : Lowers ('Σ' :: cs) ('ς' :: ds)

theorem lowersSome (cs : List Char) : ∃ ds, Lowers cs ds := by
  induction cs with
  | nil => exact ⟨[], .nil⟩
  | cons c cs ih =>
    obtain ⟨ds, rest⟩ := ih
    exact ⟨_, .char rest⟩

theorem lowerCharNonempty (c : Char) : lowerChar c ≠ [] := by
  unfold lowerChar mapCase
  split
  · rename_i image special
    simp only [lowerSpecial, List.lookup_cons] at special
    split at special <;> cases special
    simp
  · split <;> simp

theorem lowersLength {cs ds : List Char} (lowers : Lowers cs ds) : cs.length ≤ ds.length := by
  induction lowers with
  | nil => exact Nat.le_refl _
  | @char c cs ds rest ih =>
    have some := List.length_pos_iff.mpr (lowerCharNonempty c)
    rw [List.length_cons, List.length_append]
    omega
  | lastSigma rest ih => exact Nat.succ_le_succ ih

theorem lowersOwn {cs ds : List Char} (lowers : Lowers cs ds) :
    ds = cs ↔ ∀ c ∈ cs, lowerChar c = [c] := by
  induction lowers with
  | nil => simp
  | @char c cs ds rest ih =>
    rw [List.forall_mem_cons, ← ih]
    constructor
    · intro same
      obtain ⟨first, more, image⟩ := List.exists_cons_of_ne_nil (lowerCharNonempty c)
      rw [image, List.cons_append, List.cons.injEq] at same
      obtain ⟨rfl, tail⟩ := same
      -- no text gets shorter, so the image of the first character has no room for a second one
      have length := congrArg List.length tail
      have whole := lowersLength rest
      rw [List.length_append] at length
      obtain rfl : more = [] := List.eq_nil_of_length_eq_zero (by omega)
      exact ⟨image, tail⟩
    · rintro ⟨image, rfl⟩
      rw [image]
      rfl
  | @lastSigma cs ds rest ih =>
    have other : lowerChar 'Σ' ≠ ['Σ'] := by decide
    simp [other]

theorem lowerIff {s : String} : isLower s = true ↔ ∀ ds, Lowers s.toList ds → ds = s.toList := by
  have each : isLower s = true ↔ ∀ c ∈ s.toList, lowerChar c = [c] := by simp [isLower]
  rw [each]
  constructor
  · intro own ds lowers
    exact (lowersOwn lowers).mpr own
  · intro own
    obtain ⟨ds, lowers⟩ := lowersSome s.toList
    exact (lowersOwn lowers).mp (own ds lowers)

end Text

namespace Identity

def alphabet : List Char :=
  ['a', 'b', 'c', 'd', 'e', 'f', 'g', 'h', 'i', 'j', 'k', 'l', 'm', 'n', 'o', 'p', 'q', 'r', 's', 't', 'u',
    'v', 'w', 'x', 'y', 'z', '0', '1', '2', '3', '4', '5', '6', '7', '8', '9', '_', '.', '-']

theorem alphabetPlain : ∀ c ∈ alphabet, Text.isBlank c = false ∧ Text.lowerChar c = [c] := by
  have all : alphabet.all (fun c => !Text.isBlank c && Text.lowerChar c == [c]) = true := by decide
  simpa using all

theorem alphabetIff {c : Char} : isNameChar c = true ↔ c ∈ alphabet := by
  constructor
  · intro named
    have low : c.toNat < 128 := by
      simp only [isNameChar, Bool.or_eq_true, Bool.and_eq_true, decide_eq_true_eq, beq_iff_eq,
        Char.le_def, UInt32.le_iff_toNat_le] at named
      rcases named with (((letter | digit) | rfl) | rfl) | rfl
      · exact Nat.lt_of_le_of_lt letter.2 (by decide)
      · exact Nat.lt_of_le_of_lt digit.2 (by decide)
      all_goals decide
    have ascii : ∀ n < 128, isNameChar (Char.ofNat n) = true → Char.ofNat n ∈ alphabet := by
      decide +kernel
    simpa using ascii c.toNat low (by simpa using named)
  · have all : alphabet.all isNameChar = true := by decide
    exact List.all_eq_true.mp all c

inductive Rule
  | text
  | filled
  | trimmed
  | lower
  | least
  | most
  | letters
  deriving DecidableEq

namespace Rule

def all : List Rule := [.text, .filled, .trimmed, .lower, .least, .most, .letters]

def before (rule : Rule) : List Rule := all.takeWhile (· ≠ rule)

def refusal (b : Bounds) : Rule → Refusal
  | text => .notText
  | filled => .empty
  | trimmed => .blankEnds
  | lower => .notLower
  | least => .short b.least
  | most => .long b.most
  | letters => .characters

def Asks (b : Bounds) (s : String) : Rule → Prop
  | text => True
  | filled => s ≠ ""
  | trimmed => ∀ c, s.toList.head? = some c ∨ s.toList.getLast? = some c → Text.isBlank c = false
  | lower => ∀ ds, Text.Lowers s.toList ds → ds = s.toList
  | least => b.least ≤ s.length
  | most => s.length ≤ b.most
  | letters => ∀ c ∈ s.toList, c ∈ alphabet

def check (b : Bounds) (s : String) : Rule → Bool
  | text => true
  | filled => s ≠ ""
  | trimmed => Text.isTrimmed s
  | lower => Text.isLower s
  | least => b.least ≤ s.length
  | most => s.length ≤ b.most
  | letters => s.toList.all isNameChar

theorem checkIff {b : Bounds} {s : String} (rule : Rule) : rule.check b s = true ↔ rule.Asks b s := by
  cases rule with
  | text => simp [check, Asks]
  | filled => simp [check, Asks]
  | trimmed => exact Text.trimmedIff
  | lower => exact Text.lowerIff
  | least => simp [check, Asks]
  | most => simp [check, Asks]
  | letters => simp only [check, Asks, List.all_eq_true, alphabetIff]

def Keeps (b : Bounds) (raw : Json) (rule : Rule) : Prop := ∃ s, raw = .string s ∧ rule.Asks b s

structure FirstBroken (b : Bounds) (raw : Json) (rule : Rule) : Prop where
  broken : ¬ rule.Keeps b raw
  earlier : ∀ r ∈ rule.before, r.Keeps b raw

theorem memberAll (rule : Rule) : rule ∈ all := by cases rule <;> decide

end Rule

theorem findFirst {α : Type} [DecidableEq α] {p : α → Bool} {l : List α} {a : α} (member : a ∈ l) :
    l.find? p = some a ↔ p a = true ∧ ∀ r ∈ l.takeWhile (· ≠ a), p r = false := by
  induction l with
  | nil => cases member
  | cons x l ih =>
    by_cases same : x = a
    · subst same
      cases holds : p x with
      | true => simp [holds]
      | false =>
        have later : l.find? p ≠ some x := fun found => by
          rw [List.find?_some found] at holds
          cases holds
        simp [holds, later]
    · have inside : a ∈ l := (List.mem_cons.mp member).resolve_left (Ne.symm same)
      cases holds : p x with
      | true => simp [holds, same]
      | false => simp [holds, same, ih inside]

section
variable {b : Bounds} {s : String}

theorem brokenFirst (rule : Rule) (later : List Rule) :
    ((rule :: later).find? fun r => !r.check b s).map (Rule.refusal b) =
      if !rule.check b s then some (rule.refusal b)
      else (later.find? fun r => !r.check b s).map (Rule.refusal b) := by
  cases met : rule.check b s <;> simp [met]

theorem refusalFound :
    refusal? b s = (Rule.all.find? fun rule => !rule.check b s).map (Rule.refusal b) := by
  rw [Rule.all]
  simp only [brokenFirst, List.find?_nil, Option.map_none]
  simp [refusal?, Rule.check, Rule.refusal]

theorem refusedFirst {why : Refusal} : refusal? b s = some why ↔
    ∃ rule : Rule, rule.FirstBroken b (.string s) ∧ why = rule.refusal b := by
  have keeps (rule : Rule) : rule.Keeps b (.string s) ↔ rule.check b s = true := by
    simp [Rule.Keeps, Rule.checkIff]
  have first (rule : Rule) : (Rule.all.find? fun r => !r.check b s) = some rule ↔
      rule.FirstBroken b (.string s) := by
    rw [findFirst rule.memberAll]
    constructor
    · rintro ⟨broken, earlier⟩
      refine ⟨(keeps rule).not.mpr (by simpa using broken), fun r before => (keeps r).mpr ?_⟩
      simpa using earlier r before
    · rintro ⟨broken, earlier⟩
      refine ⟨by simpa using (keeps rule).not.mp broken, fun r before => ?_⟩
      simpa using (keeps r).mp (earlier r before)
  rw [refusalFound, Option.map_eq_some_iff]
  simp only [first, eq_comm]

theorem alphabetTrimmed (spelled : ∀ c ∈ s.toList, c ∈ alphabet) : Rule.trimmed.Asks b s := by
  rintro c (first | last)
  · exact (alphabetPlain c (spelled c (List.mem_of_mem_head? first))).1
  · exact (alphabetPlain c (spelled c (List.mem_of_getLast? last))).1

theorem alphabetLower (spelled : ∀ c ∈ s.toList, c ∈ alphabet) : Rule.lower.Asks b s := by
  intro ds lowers
  exact (Text.lowersOwn lowers).mpr fun c member => (alphabetPlain c (spelled c member)).2

theorem acceptedIff : refusal? b s = none ↔
    (∀ c ∈ s.toList, c ∈ alphabet) ∧ b.least ≤ s.length ∧ s.length ≤ b.most := by
  have met : refusal? b s = none ↔ ∀ rule : Rule, rule.Asks b s := by
    rw [refusalFound, Option.map_eq_none_iff, List.find?_eq_none]
    simp [Rule.memberAll, Rule.checkIff]
  rw [met]
  constructor
  · intro asked
    exact ⟨asked .letters, asked .least, asked .most⟩
  · rintro ⟨spelled, least, most⟩ rule
    cases rule with
    | text => trivial
    | filled =>
      rintro rfl
      have positive := b.leastPositive
      rw [String.length_empty] at least
      omega
    | trimmed => exact alphabetTrimmed spelled
    | lower => exact alphabetLower spelled
    | least => exact least
    | most => exact most
    | letters => exact spelled

end

def shown : Json → Json
  | .string s => .string s
  | j => .string (j.write Json.display)

theorem noTextFirst {b : Bounds} {raw : Json} (noText : ∀ s, raw ≠ .string s) (rule : Rule) :
    rule.FirstBroken b raw ↔ rule = .text := by
  have broken (r : Rule) : ¬ r.Keeps b raw := fun ⟨s, same, _⟩ => noText s same
  constructor
  · intro first
    by_contra other
    have before : Rule.text ∈ rule.before := by cases rule <;> simp_all [Rule.before, Rule.all]
    exact broken .text (first.earlier .text before)
  · rintro rfl
    exact ⟨broken .text, by simp [Rule.before, Rule.all]⟩

theorem canonicalError {b : Bounds} {raw : Json} {f : Fault} : canonical b raw = .error f ↔
    ∃ rule : Rule, rule.FirstBroken b raw ∧ f = .identity (shown raw) (rule.refusal b) := by
  by_cases isText : ∃ s, raw = .string s
  · obtain ⟨s, rfl⟩ := isText
    have refused : canonical b (.string s) = .error f ↔
        ∃ why, refusal? b s = some why ∧ f = .identity (.string s) why := by
      simp only [canonical]
      cases refusal? b s with
      | none => simp
      | some why => simp [eq_comm]
    rw [refused]
    constructor
    · rintro ⟨why, found, rfl⟩
      obtain ⟨rule, first, rfl⟩ := refusedFirst.mp found
      exact ⟨rule, first, rfl⟩
    · rintro ⟨rule, first, rfl⟩
      exact ⟨_, refusedFirst.mpr ⟨rule, first, rfl⟩, rfl⟩
  · -- a value that is no text keeps no rule at all, so it is refused for the first one
    have noText : ∀ s, raw ≠ .string s := fun s same => isText ⟨s, same⟩
    have refused : canonical b raw = .error (.identity (shown raw) .notText) := by
      cases raw with
      | string s => exact absurd rfl (noText s)
      | _ => rfl
    simp only [refused, noTextFirst noText, exists_eq_left, Rule.refusal, Except.error.injEq, eq_comm]

/-- What a value fails with when a rule is the first that it breaks. The refusal shows the value, and for a
broken bound the bound; where one of them cannot be written, that is the failure. -/
def Rule.failure (b : Bounds) (raw : Json) (rule : Rule) : Failure :=
  if raw.isWritable && (rule.refusal b).isWritable then .fault (.identity (shown raw) (rule.refusal b))
  else .misfit .overlong

theorem shownWritable (raw : Json) : (shown raw).isWritable = true := by
  cases raw <;> rfl

theorem unwritableFirst {b : Bounds} {raw : Json} (unwritable : ¬ raw.isWritable = true) :
    ∃ rule : Rule, rule.FirstBroken b raw := by
  refine ⟨.text, (noTextFirst (fun s same => ?_) .text).mpr rfl⟩
  rw [same] at unwritable
  exact unwritable rfl

theorem canonicalFails {b : Bounds} {raw : Json} {e : Failure} : canonical? b raw = .error e ↔
    ∃ rule : Rule, rule.FirstBroken b raw ∧ e = rule.failure b raw := by
  unfold canonical?
  by_cases writable : raw.isWritable = true
  · rw [if_pos writable, mapErrorError]
    simp only [canonicalError]
    have told (rule : Rule) :
        Fault.failure (.identity (shown raw) (rule.refusal b)) = rule.failure b raw := by
      rw [Fault.failure, Fault.isWritable, shownWritable, Rule.failure, writable]
    constructor
    · rintro ⟨_, ⟨rule, first, rfl⟩, rfl⟩
      exact ⟨rule, first, told rule⟩
    · rintro ⟨rule, first, rfl⟩
      exact ⟨_, ⟨rule, first, rfl⟩, (told rule).symm⟩
  · have failed (rule : Rule) : rule.failure b raw = .misfit .overlong := by
      simp [Rule.failure, writable]
    rw [if_neg writable]
    simp only [failed, exists_and_right, unwritableFirst writable, true_and, Except.error.injEq, eq_comm]

/-- The canonical validator accepts the texts of the alphabet within its bounds, as they are, and refuses any
other value for the first rule that it breaks. A refusal that cannot be written fails in its place. -/
theorem canonicalLanguage (b : Bounds) (raw : Json) :
    let judged := (Validator.canonical b).validate raw
    judged.2 = .canonical b ∧
      (∀ i, judged.1 = .ok i ↔ raw = .string i.name ∧ (∀ c ∈ i.name.toList, c ∈ alphabet) ∧
        b.least ≤ i.name.length ∧ i.name.length ≤ b.most) ∧
      (∀ e, judged.1 = .error e ↔ ∃ rule : Rule, rule.FirstBroken b raw ∧ e = rule.failure b raw) ∧
      ∀ s : String, (∀ c ∈ s.toList, c ∈ alphabet) → Text.trim s = s ∧ Text.isLower s = true ∧
        ∀ ds, Text.Lowers s.toList ds → ds = s.toList := by
  refine ⟨rfl, fun i => ?_, fun e => canonicalFails, fun s spelled => ?_⟩
  · rw [Validator.validate, canonicalAccepts, acceptedIff]
  · have lower := alphabetLower (b := b) spelled
    have trimmed := Text.trimmedIff.mpr (alphabetTrimmed (b := b) spelled)
    exact ⟨by simpa [Text.isTrimmed] using trimmed, Text.lowerIff.mpr lower, lower⟩

theorem overlongUnrefused :
    let bounds := Settings.standard.bounds
    Rule.text.FirstBroken bounds (.int Text.leastOverlong) ∧
      ((Validator.canonical bounds).validate (.int Text.leastOverlong)).1 =
        .error (.misfit .overlong) := by
  constructor
  · exact (noTextFirst (by simp) .text).mpr rfl
  · simp [Validator.validate, canonical?, Json.isWritable, Text.overlongUnspellable]

end Identity

end Handover

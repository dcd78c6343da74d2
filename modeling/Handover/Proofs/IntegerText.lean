import Mathlib.Data.List.Induction
import Mathlib.Data.Nat.Digits.Defs
import Handover.Proofs.Trimming
import Handover.Text.Integer

/-!
The texts of integers, as a grammar apart from the reader: blanks around, at most one sign, and digits of any
script with single underscores between them. The reader finds the integer that a text denotes, and no other.
-/
namespace Handover.Text

inductive Numeral : List Char → List Nat → Prop
  | last {c : Char} {d : Nat} (digit : digitValue? c = some d) : Numeral [c] [d]
  | next {c : Char} {cs : List Char} {d : Nat} {ds : List Nat} (digit : digitValue? c = some d)
    (rest : Numeral cs ds) : Numeral (c :: cs) (d :: ds)
  | parted {c : Char} {cs : List Char} {d : Nat} {ds : List Nat} (digit : digitValue? c = some d)
    (rest : Numeral cs ds) : Numeral (c :: '_' :: cs) (d :: ds)

theorem noDigit : digitValue? '_' = none ∧ digitValue? '-' = none ∧ digitValue? '+' = none := by decide

theorem readRun {cs : List Char} {ds : List Nat} (run : Numeral cs ds) (flag : Bool) :
    digitRun flag cs = some ds := by
  induction run generalizing flag with
  | last digit => simp [digitRun, digit]
  | next digit rest ih => simp [digitRun, digit, ih]
  | parted digit rest ih => simp [digitRun, digit, noDigit.1, ih]

theorem runOfRead (cs : List Char) (ds : List Nat) :
    (digitRun true cs = some ds → Numeral cs ds) ∧
      (digitRun false cs = some ds →
        (cs = [] ∧ ds = []) ∨ Numeral cs ds ∨ ∃ rest, cs = '_' :: rest ∧ Numeral rest ds) := by
  induction cs generalizing ds with
  | nil =>
    refine ⟨fun read => by simp [digitRun] at read, fun read => Or.inl ⟨rfl, ?_⟩⟩
    exact (Option.some.inj read).symm
  | cons c cs ih =>
    cases digit : digitValue? c with
    | some d =>
      -- after a digit it does not matter whether one was due
      have led (flag : Bool) (read : digitRun flag (c :: cs) = some ds) : Numeral (c :: cs) ds := by
        simp only [digitRun, digit] at read
        obtain ⟨more, rest, rfl⟩ := Option.map_eq_some_iff.mp read
        rcases (ih more).2 rest with ⟨rfl, rfl⟩ | run | ⟨rest, rfl, run⟩
        · exact .last digit
        · exact .next digit run
        · exact .parted digit run
      exact ⟨led true, fun read => Or.inr (Or.inl (led false read))⟩
    | none =>
      constructor
      · intro read
        simp [digitRun, digit] at read
      · intro read
        simp only [digitRun, digit, Bool.not_false, Bool.and_true, decide_eq_true_eq] at read
        split at read <;> try contradiction
        rename_i underscore
        exact Or.inr (Or.inr ⟨cs, by rw [underscore], (ih ds).1 read⟩)

theorem runRead {cs : List Char} {ds : List Nat} : digitRun true cs = some ds ↔ Numeral cs ds :=
  ⟨(runOfRead cs ds).1, fun run => readRun run true⟩

theorem ofDigitsPlaces (ds : List Nat) : ofDigits ds = Nat.ofDigits 10 ds.reverse := by
  induction ds using List.reverseRecOn with
  | nil => rfl
  | append_singleton ds d ih =>
    have last : ofDigits (ds ++ [d]) = 10 * ofDigits ds + d := by simp [ofDigits]
    rw [last, ih, List.reverse_concat, Nat.ofDigits_cons, Nat.add_comm]

inductive Natural : List Char → Nat → Prop
  | mk {cs : List Char} {ds : List Nat} (run : Numeral cs ds) (short : ds.length ≤ maxDigits) :
    Natural cs (Nat.ofDigits 10 ds.reverse)

theorem naturalRead {cs : List Char} {n : Nat} : natural? cs = some n ↔ Natural cs n := by
  unfold natural?
  constructor
  · intro read
    split at read <;> try contradiction
    rename_i ds found
    split at read <;> try contradiction
    rename_i short
    cases read
    rw [ofDigitsPlaces]
    exact .mk (runRead.mp found) short
  · rintro ⟨run, short⟩
    simp only [runRead.mpr run, if_pos short, ofDigitsPlaces]

inductive Signed : List Char → Int → Prop
  | bare {cs : List Char} {n : Nat} (digits : Natural cs n) : Signed cs n
  | plus {cs : List Char} {n : Nat} (digits : Natural cs n) : Signed ('+' :: cs) n
  | minus {cs : List Char} {n : Nat} (digits : Natural cs n) : Signed ('-' :: cs) (-n)

theorem unsigned {cs : List Char} {n : Nat} (digits : Natural cs n) :
    ∃ c rest, cs = c :: rest ∧ c ≠ '-' ∧ c ≠ '+' := by
  obtain ⟨-, minus, plus⟩ := noDigit
  have apart {c x : Char} {d : Nat} (digit : digitValue? c = some d) (sign : digitValue? x = none) :
      c ≠ x := by
    rintro rfl
    rw [sign] at digit
    cases digit
  obtain ⟨run, -⟩ := digits
  cases run with
  | last digit => exact ⟨_, _, rfl, apart digit minus, apart digit plus⟩
  | next digit rest => exact ⟨_, _, rfl, apart digit minus, apart digit plus⟩
  | parted digit rest => exact ⟨_, _, rfl, apart digit minus, apart digit plus⟩

theorem signedRead {cs : List Char} {n : Int} : signed? cs = some n ↔ Signed cs n := by
  constructor
  · intro read
    unfold signed? at read
    split at read
    · rename_i cs
      cases found : natural? cs with
      | none => rw [found] at read; cases read
      | some k =>
        rw [found] at read
        cases read
        exact .minus (naturalRead.mp found)
    · rename_i cs
      obtain ⟨k, found, rfl⟩ := Option.map_eq_some_iff.mp read
      exact .plus (naturalRead.mp found)
    · obtain ⟨k, found, rfl⟩ := Option.map_eq_some_iff.mp read
      exact .bare (naturalRead.mp found)
  · intro signed
    cases signed with
    | plus digits => simp [signed?, naturalRead.mpr digits]
    | minus digits => simp [signed?, naturalRead.mpr digits]
    | bare digits =>
      obtain ⟨c, rest, rfl, minus, plus⟩ := unsigned digits
      rw [signed?, naturalRead.mpr digits]
      · rfl
      · rintro cs ⟨⟩
        exact minus rfl
      · rintro cs ⟨⟩
        exact plus rfl

def Denotes (s : String) (n : Int) : Prop :=
  ∃ core, Trims isIntegerBlank s.toList core ∧ Signed core n

theorem integerRead {s : String} {n : Int} : integer? s = some n ↔ Denotes s n := by
  constructor
  · intro read
    exact ⟨_, trimListTrims _ _, signedRead.mp read⟩
  · rintro ⟨core, trims, signed⟩
    rw [integer?, trimListOf trims]
    exact signedRead.mpr signed

example : integer? " ٣_٢\t" = some 32 := by decide

end Handover.Text

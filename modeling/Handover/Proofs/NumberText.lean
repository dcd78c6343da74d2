import Mathlib.Data.List.TakeDrop
import Handover.Json.Grammar

/-!
Numbers: what the reader takes for one is what the grammar spells. A number ends where it cannot go on, so
the reader takes all of it if no digit, point or exponent follows.
-/
namespace Handover.Json

def Blunt (rest : List Char) : Prop := ∀ c ∈ rest.head?, c.isDigit = false

def Ends (rest : List Char) : Prop :=
  ∀ c ∈ rest.head?, c.isDigit = false ∧ c ≠ '.' ∧ c ≠ 'e' ∧ c ≠ 'E'

theorem endsNil : Ends [] := by simp [Ends]

theorem endsCons {c : Char} (rest : List Char)
    (stop : c.isDigit = false ∧ c ≠ '.' ∧ c ≠ 'e' ∧ c ≠ 'E') : Ends (c :: rest) := by
  simpa [Ends] using stop

section
variable {cs ds rest : List Char}

theorem bluntOfEnds (ends : Ends rest) : Blunt rest := fun c head => (ends c head).1

theorem bluntCons {c : Char} (rest : List Char) (solid : c.isDigit = false) : Blunt (c :: rest) := by
  simpa [Blunt] using solid

theorem digitsRead (digits : ∀ d ∈ ds, d.isDigit = true) (blunt : Blunt rest) :
    digitsOf (ds ++ rest) = (ds, rest) := by
  have stop : rest.takeWhile Char.isDigit = [] ∧ rest.dropWhile Char.isDigit = rest := by
    cases rest with
    | nil => exact ⟨rfl, rfl⟩
    | cons c rest => simp [blunt c rfl]
  rw [digitsOf, List.span_eq_takeWhile_dropWhile, List.takeWhile_append_of_pos digits,
    List.dropWhile_append_of_pos digits, stop.1, stop.2, List.append_nil]

theorem digitsOfRead (read : digitsOf cs = (ds, rest)) :
    cs = ds ++ rest ∧ ∀ d ∈ ds, d.isDigit = true := by
  rw [digitsOf, List.span_eq_takeWhile_dropWhile, Prod.mk.injEq] at read
  obtain ⟨rfl, rfl⟩ := read
  exact ⟨List.takeWhile_append_dropWhile.symm, List.all_eq_true.mp List.all_takeWhile⟩

theorem wholeRead {lim : Limits} (whole : Whole lim ds) (blunt : Blunt rest) :
    wholeDigits? lim (ds ++ rest) = some (ds, rest) := by
  cases whole with
  | zero => rfl
  | digits digits first bounded =>
    have read := digitsRead digits.all blunt
    cases ds with
    | nil => exact (digits.some rfl).elim
    | cons d ds =>
      rw [List.cons_append] at read ⊢
      rw [wholeDigits?, read]
      · simpa using bounded
      · rintro tail same
        exact first (congrArg List.head? same)

theorem wholeOfRead {lim : Limits} (read : wholeDigits? lim cs = some (ds, rest)) :
    cs = ds ++ rest ∧ Whole lim ds := by
  unfold wholeDigits? at read
  split at read
  · cases read
    exact ⟨rfl, .zero⟩
  rename_i other
  split at read
  · cases read
  rename_i ds' rest' some found
  split at read
  · cases read
  rename_i bounded
  cases read
  obtain ⟨rfl, digits⟩ := digitsOfRead found
  refine ⟨rfl, .digits ⟨some, digits⟩ ?_ (Nat.le_of_not_lt bounded)⟩
  intro zero
  obtain ⟨tail, rfl⟩ := List.head?_eq_some_iff.mp zero
  exact other _ rfl

theorem fractionRead {fs frac : List Char} (fraction : Fraction fs frac) (blunt : Blunt rest)
    (point : rest.head? ≠ some '.') : fraction? (fs ++ rest) = some (frac, rest) := by
  cases fraction with
  | none =>
    rw [List.nil_append]
    unfold fraction?
    split
    · exact (point rfl).elim
    · rfl
  | some digits =>
    have read := digitsRead digits.all blunt
    rw [List.cons_append, fraction?, read]
    cases frac with
    | nil => exact (digits.some rfl).elim
    | cons d ds => rfl

theorem fractionOfRead {frac : List Char} (read : fraction? cs = some (frac, rest)) :
    ∃ fs, cs = fs ++ rest ∧ Fraction fs frac := by
  unfold fraction? at read
  split at read
  · split at read
    · cases read
    rename_i some found
    cases read
    obtain ⟨rfl, digits⟩ := digitsOfRead found
    exact ⟨'.' :: frac, rfl, .some ⟨some, digits⟩⟩
  · cases read
    exact ⟨[], rfl, .none⟩

theorem exponentDigitsRead (negative : Bool) (digits : Digits ds) (blunt : Blunt rest) :
    exponentDigits? negative (ds ++ rest) =
      some (if negative then -(digitsValue ds : Int) else digitsValue ds, rest) := by
  rw [exponentDigits?, digitsRead digits.all blunt]
  cases ds with
  | nil => exact (digits.some rfl).elim
  | cons d ds => rfl

theorem exponentDigitsOfRead {negative : Bool} {e : Int}
    (read : exponentDigits? negative cs = some (e, rest)) :
    ∃ ds, cs = ds ++ rest ∧ Digits ds ∧
      e = if negative then -(digitsValue ds : Int) else digitsValue ds := by
  unfold exponentDigits? at read
  split at read
  · cases read
  rename_i ds _ some found
  cases read
  obtain ⟨rfl, digits⟩ := digitsOfRead found
  exact ⟨ds, rfl, ⟨some, digits⟩, rfl⟩

def signed? : List Char → Option (Int × List Char)
  | '-' :: cs => exponentDigits? true cs
  | '+' :: cs => exponentDigits? false cs
  | cs => exponentDigits? false cs

theorem exponentMarked {e : Char} (mark : e = 'e' ∨ e = 'E') (tail : List Char) :
    exponent? (e :: tail) = (signed? tail).map fun r => (some r.1, r.2) := by
  rcases mark with rfl | rfl <;> rfl

theorem signedBare (digits : Digits ds) (blunt : Blunt rest) :
    signed? (ds ++ rest) = some ((digitsValue ds : Int), rest) := by
  have read := exponentDigitsRead false digits blunt
  cases ds with
  | nil => exact (digits.some rfl).elim
  | cons d ds =>
    have digit := digits.all d (by simp)
    rw [List.cons_append] at read ⊢
    rw [signed?.eq_3, read]
    · rfl
    all_goals rintro tail same; cases same; exact absurd digit (by decide)

theorem signedOfRead {e : Int} (read : signed? cs = some (e, rest)) {mark : Char}
    (marked : mark = 'e' ∨ mark = 'E') : ∃ es, mark :: cs = es ++ rest ∧ Exponent es (some e) := by
  unfold signed? at read
  split at read
  · obtain ⟨ds, rfl, digits, rfl⟩ := exponentDigitsOfRead read
    exact ⟨mark :: '-' :: ds, rfl, .minus marked digits⟩
  · obtain ⟨ds, rfl, digits, rfl⟩ := exponentDigitsOfRead read
    exact ⟨mark :: '+' :: ds, rfl, .plus marked digits⟩
  · obtain ⟨ds, rfl, digits, rfl⟩ := exponentDigitsOfRead read
    exact ⟨mark :: ds, rfl, .bare marked digits⟩

theorem exponentRead {es : List Char} {exp : Option Int} (exponent : Exponent es exp)
    (ends : Ends rest) : exponent? (es ++ rest) = some (exp, rest) := by
  have blunt := bluntOfEnds ends
  cases exponent with
  | none =>
    rw [List.nil_append]
    unfold exponent?
    split
    · exact ((ends 'e' rfl).2.2.1 rfl).elim
    · exact ((ends 'E' rfl).2.2.2 rfl).elim
    · rfl
  | bare mark digits =>
    rw [List.cons_append, exponentMarked mark, signedBare digits blunt]
    rfl
  | plus mark digits =>
    rw [List.cons_append, exponentMarked mark, List.cons_append, signed?.eq_2,
      exponentDigitsRead false digits blunt]
    rfl
  | minus mark digits =>
    rw [List.cons_append, exponentMarked mark, List.cons_append, signed?.eq_1,
      exponentDigitsRead true digits blunt]
    rfl

theorem exponentOfRead {exp : Option Int} (read : exponent? cs = some (exp, rest)) :
    ∃ es, cs = es ++ rest ∧ Exponent es exp := by
  have marked {e : Char} {tail : List Char} (mark : e = 'e' ∨ e = 'E')
      (read : exponent? (e :: tail) = some (exp, rest)) :
      ∃ es, e :: tail = es ++ rest ∧ Exponent es exp := by
    rw [exponentMarked mark] at read
    obtain ⟨⟨value, last⟩, found, same⟩ := Option.map_eq_some_iff.mp read
    cases same
    exact signedOfRead found mark
  cases cs with
  | nil => cases read; exact ⟨[], rfl, .none⟩
  | cons c tail =>
    by_cases mark : c = 'e' ∨ c = 'E'
    · exact marked mark read
    · rw [not_or] at mark
      unfold exponent? at read
      split at read
      · rename_i same
        exact (mark.1 (List.cons.inj same).1).elim
      · rename_i same
        exact (mark.2 (List.cons.inj same).1).elim
      · cases read
        exact ⟨[], rfl, .none⟩

variable {lim : Limits} {negative : Bool} {j : Json}

theorem exponentHead {es : List Char} {exp : Option Int} (exponent : Exponent es exp)
    (ends : Ends rest) : Blunt (es ++ rest) ∧ (es ++ rest).head? ≠ some '.' := by
  cases exponent with
  | none => exact ⟨bluntOfEnds ends, fun point => (ends '.' point).2.1 rfl⟩
  | bare mark _ | plus mark _ | minus mark _ =>
    rcases mark with rfl | rfl <;> exact ⟨bluntCons _ rfl, by simp⟩

theorem fractionHead {fs frac : List Char} (fraction : Fraction fs frac) (blunt : Blunt rest) :
    Blunt (fs ++ rest) := by
  cases fraction with
  | none => exact blunt
  | some digits => exact bluntCons _ rfl

theorem magnitudeRead (size : Magnitude lim negative cs j) (ends : Ends rest) :
    magnitude? lim negative (cs ++ rest) = some (j, rest) := by
  obtain @⟨whole, fs, frac, es, exp, digits, fraction, exponent⟩ := size
  obtain ⟨blunt, point⟩ := exponentHead exponent ends
  have first := wholeRead digits (fractionHead fraction blunt)
  have middle := fractionRead fraction blunt point
  have last := exponentRead exponent ends
  rw [List.append_assoc, List.append_assoc]
  simp only [magnitude?, first, middle, last, bind, Option.bind]
  cases exp with
  | none => cases frac <;> simp [numberOf]
  | some e => cases frac <;> simp [numberOf]

theorem magnitudeOfRead (read : magnitude? lim negative cs = some (j, rest)) :
    ∃ m, cs = m ++ rest ∧ Magnitude lim negative m j := by
  simp only [magnitude?, bind, Option.bind_eq_some_iff] at read
  obtain ⟨⟨whole, behind⟩, first, ⟨frac, behind⟩, middle, ⟨exp, behind⟩, last, value⟩ := read
  obtain ⟨rfl, digits⟩ := wholeOfRead first
  obtain ⟨fs, rfl, fraction⟩ := fractionOfRead middle
  obtain ⟨es, rfl, exponent⟩ := exponentOfRead last
  have same : numberOf negative whole frac exp = j ∧ behind = rest := by
    cases exp with
    | none => cases frac <;> simpa [numberOf] using value
    | some e => cases frac <;> simpa [numberOf] using value
  obtain ⟨rfl, rfl⟩ := same
  exact ⟨whole ++ (fs ++ es), by simp only [List.append_assoc], .mk digits fraction exponent⟩

theorem magnitudeHead (size : Magnitude lim negative cs j) :
    ∃ d tail, cs = d :: tail ∧ d.isDigit = true := by
  obtain @⟨whole, fs, frac, es, exp, whole, -, -⟩ := size
  cases whole with
  | zero => exact ⟨'0', _, rfl, rfl⟩
  | digits digits _ _ =>
    obtain ⟨d, ds, rfl⟩ := List.exists_cons_of_ne_nil digits.some
    exact ⟨d, _, rfl, digits.all d (by simp)⟩

theorem numberRead (number : NumberText lim cs j) (ends : Ends rest) :
    number? lim (cs ++ rest) = some (j, rest) := by
  cases number with
  | positive size =>
    have read := magnitudeRead size ends
    obtain ⟨d, tail, rfl, digit⟩ := magnitudeHead size
    rw [List.cons_append] at read ⊢
    rw [number?.eq_5, read]
    all_goals
      intro tail same
      rw [(List.cons.inj same).1] at digit
      exact absurd digit (by decide)
  | negative size =>
    have read := magnitudeRead size ends
    obtain ⟨d, tail, rfl, digit⟩ := magnitudeHead size
    rw [List.cons_append] at read
    rw [List.cons_append, List.cons_append, number?.eq_4, read]
    intro tail same
    rw [(List.cons.inj same).1] at digit
    exact absurd digit (by decide)
  | undefined | infinite | infiniteBelow => rfl

theorem numberOfRead (read : number? lim cs = some (j, rest)) :
    ∃ m, cs = m ++ rest ∧ NumberText lim m j := by
  unfold number? at read
  split at read
  · cases read
    exact ⟨_, rfl, .undefined⟩
  · cases read
    exact ⟨_, rfl, .infinite⟩
  · cases read
    exact ⟨_, rfl, .infiniteBelow⟩
  · obtain ⟨m, rfl, size⟩ := magnitudeOfRead read
    exact ⟨'-' :: m, rfl, .negative size⟩
  · obtain ⟨m, rfl, size⟩ := magnitudeOfRead read
    exact ⟨m, rfl, .positive size⟩

theorem numberHead (number : NumberText lim cs j) :
    ∃ c tail, cs = c :: tail ∧ isGap c = false ∧
      (c ≠ 'n' ∧ c ≠ 't' ∧ c ≠ 'f' ∧ c ≠ '"' ∧ c ≠ '[' ∧ c ≠ '\x7b') ∧ c ≠ ']' := by
  cases number with
  | positive size =>
    obtain ⟨d, tail, rfl, digit⟩ := magnitudeHead size
    refine ⟨d, tail, rfl, ?_, ⟨?_, ?_, ?_, ?_, ?_, ?_⟩, ?_⟩
    · cases gap : isGap d with
      | false => rfl
      | true =>
        rcases (by simpa [isGap] using gap : ((d = ' ' ∨ d = '\t') ∨ d = '\n') ∨ d = '\r')
          with ((rfl | rfl) | rfl) | rfl <;> exact absurd digit (by decide)
    all_goals rintro rfl; exact absurd digit (by decide)
  | negative size => exact ⟨'-', _, rfl, by decide⟩
  | undefined => exact ⟨'N', _, rfl, by decide⟩
  | infinite => exact ⟨'I', _, rfl, by decide⟩
  | infiniteBelow => exact ⟨'-', _, rfl, by decide⟩

end

end Handover.Json

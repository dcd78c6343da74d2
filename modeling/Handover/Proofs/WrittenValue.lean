import Handover.Proofs.AcceptedText

/-!
Written values are spelt by the grammar, in every style that keeps to the JSON names and separators, so
they read back. Real numbers are left out: no record and no message writes one.
-/
namespace Handover.Json

theorem toDigitsHead (n : Nat) (pos : 0 < n) :
    ∃ d ds, Nat.toDigits 10 n = d :: ds ∧ d.isDigit = true ∧ d ≠ '0' := by
  induction n using Nat.strongRecOn with
  | ind n ih =>
    by_cases small : n < 10
    · refine ⟨n.digitChar, [], Nat.toDigits_of_lt_base small, ?_, ?_⟩
      · simpa using small
      · simpa using Nat.ne_of_gt pos
    · obtain ⟨d, ds, same, digit, nonzero⟩ := ih (n / 10) (by omega) (by omega)
      refine ⟨d, ds ++ [(n % 10).digitChar], ?_, digit, nonzero⟩
      rw [Nat.toDigits_of_base_le (by decide) (by omega), same, List.cons_append]

section
variable {lim : Limits}

theorem wholeWritten (n : Nat) (small : (Nat.toDigits 10 n).length ≤ lim.digits) :
    Whole lim (Nat.toDigits 10 n) := by
  by_cases zero : n = 0
  · subst zero
    exact .zero
  obtain ⟨d, ds, same, -, nonzero⟩ := toDigitsHead n (by omega)
  refine .digits ⟨by simp [same], fun c inside => ?_⟩ (by simp [same, nonzero]) small
  exact Nat.isDigit_of_mem_toDigits (by decide) (by decide) inside

theorem magnitudeWritten (negative : Bool) (n : Nat)
    (small : (Nat.toDigits 10 n).length ≤ lim.digits) :
    Magnitude lim negative (Nat.toDigits 10 n) (.int (if negative then -(n : Int) else n)) := by
  have value : digitsValue (Nat.toDigits 10 n) = n := Nat.ofDigitChars_ten_toDigits
  have size : Magnitude lim negative (Nat.toDigits 10 n ++ ([] ++ []))
      (numberOf negative (Nat.toDigits 10 n) [] none) := .mk (wholeWritten n small) .none .none
  simpa [numberOf, value] using size

theorem numberWritten (n : Int) (small : (Nat.toDigits 10 n.natAbs).length ≤ lim.digits) :
    NumberText lim (intChars n) (.int n) := by
  have size (negative : Bool) := magnitudeWritten negative n.natAbs small
  by_cases negative : n < 0
  · have value : -(n.natAbs : Int) = n := by omega
    rw [intChars, if_pos negative]
    exact .negative (by simpa only [if_true, value] using size true)
  · have value : (n.natAbs : Int) = n := by omega
    rw [intChars, if_neg negative]
    exact .positive (by simpa only [Bool.false_eq_true, if_false, value] using size false)

end

structure Style.Readable (st : Style) (ascii : Bool) : Prop where
  null : st.null = "null"
  yes : st.yes = "true"
  no : st.no = "false"
  quote : st.quote = quoteChars ascii
  betweenItems : ∃ gap, st.betweenItems.toList = ',' :: gap ∧ Gap gap
  afterKey : ∃ gap, st.afterKey.toList = ':' :: gap ∧ Gap gap

theorem compactReadable : compact.Readable false :=
  ⟨rfl, rfl, rfl, rfl, ⟨[], rfl, gapNil⟩, ⟨[], rfl, gapNil⟩⟩

theorem spacedReadable : spaced.Readable true :=
  ⟨rfl, rfl, rfl, rfl, ⟨[' '], rfl, by simp [Gap, isGap]⟩, ⟨[' '], rfl, by simp [Gap, isGap]⟩⟩

mutual

/-- Values that a text can hold within the limits: no real number, no member named twice. -/
def Fits (lim : Limits) : Nat → Json → Prop
  | _, .int n => (Nat.toDigits 10 n.natAbs).length ≤ lim.digits
  | _, .real _ => False
  | 0, .array _ | 0, .object _ => False
  | depth + 1, .array items => ItemsFit lim depth items
  | depth + 1, .object members => (members.map Prod.fst).Nodup ∧ MembersFit lim depth members
  | _, _ => True

def ItemsFit (lim : Limits) : Nat → List Json → Prop
  | _, [] => True
  | depth, x :: rest => Fits lim depth x ∧ ItemsFit lim depth rest

def MembersFit (lim : Limits) : Nat → List (String × Json) → Prop
  | _, [] => True
  | depth, (_, x) :: rest => Fits lim depth x ∧ MembersFit lim depth rest

end

theorem textFits (lim : Limits) (depth : Nat) (s : Option String) : Fits lim depth (.ofText? s) := by
  cases s <;> simp [ofText?, Fits]

section
variable {st : Style} {ascii : Bool} (readable : st.Readable ascii) (lim : Limits)

theorem itemCharsNext (x : Json) (items : List Json) :
    itemChars st false (x :: items) = st.betweenItems.toList ++ itemChars st true (x :: items) := by
  simp [itemChars]

theorem memberCharsNext (m : String × Json) (members : List (String × Json)) :
    memberChars st false (m :: members) =
      st.betweenItems.toList ++ memberChars st true (m :: members) := by
  simp [memberChars]

theorem elementAlone {depth : Nat} {cs : List Char} {j : Json} (value : ValueText lim depth cs j) :
    ElementText lim depth cs j := by
  have element : ElementText lim depth ([] ++ (cs ++ [])) j := .mk gapNil value gapNil
  simpa using element

include readable

theorem memberWritten (k : String) {x : Json} {depth : Nat}
    (value : ValueText lim depth (chars st x) x) :
    MemberText lim depth (quoteChars ascii k.toList ++ st.afterKey.toList ++ chars st x) (k, x) := by
  obtain ⟨gap, colon, gaps⟩ := readable.afterKey
  have member := MemberText.mk gapNil (quotesWritten ascii k.toList) gapNil
    (elementGap gaps (elementAlone lim value))
  simpa [quoteChars, colon] using member

mutual

theorem valueWritten : ∀ (depth : Nat) (j : Json), Fits lim depth j →
    ValueText lim depth (chars st j) j
  | _, .null, _ => by
    rw [chars, readable.null]
    exact .null
  | _, .bool true, _ => by
    rw [chars, readable.yes]
    exact .yes
  | _, .bool false, _ => by
    rw [chars, readable.no]
    exact .no
  | _, .int n, fits => by
    rw [chars]
    exact .number (numberWritten n (by simpa [Fits] using fits))
  | _, .real x, fits => by simp [Fits] at fits
  | depth, .string s, _ => by
    have text : ValueText lim depth _ _ := .string (quotesWritten ascii s.toList)
    rw [chars, readable.quote]
    simpa [quoteChars] using text
  | 0, .array _, fits | 0, .object _, fits => by simp [Fits] at fits
  | depth + 1, .array [], _ => .emptyArray gapNil
  | depth + 1, .array (x :: items), fits => by
    rw [Fits] at fits
    rw [chars]
    exact .array (itemsWritten depth x items fits)
  | depth + 1, .object [], _ => .emptyObject gapNil
  | depth + 1, .object (m :: members), fits => by
    rw [Fits] at fits
    have unique : Table.putAll (m :: members) [] = m :: members := Table.putAllFresh fits.1
    have text := ValueText.object (membersWritten depth m members fits.2)
    rw [chars]
    rwa [unique] at text

theorem itemsWritten : ∀ (depth : Nat) (x : Json) (items : List Json),
    ItemsFit lim depth (x :: items) → ItemsText lim depth (itemChars st true (x :: items)) (x :: items)
  | depth, x, [], fits => by
    rw [ItemsFit] at fits
    have item := ItemsText.last (elementAlone lim (valueWritten depth x fits.1))
    simpa [itemChars] using item
  | depth, x, y :: items, fits => by
    rw [ItemsFit] at fits
    obtain ⟨gap, comma, gaps⟩ := readable.betweenItems
    have text := ItemsText.more (elementAlone lim (valueWritten depth x fits.1))
      (itemsGap gaps (itemsWritten depth y items fits.2))
    rw [itemChars, itemCharsNext, comma]
    simpa using text

theorem membersWritten : ∀ (depth : Nat) (m : String × Json) (members : List (String × Json)),
    MembersFit lim depth (m :: members) →
      MembersText lim depth (memberChars st true (m :: members)) (m :: members)
  | depth, (k, x), [], fits => by
    rw [MembersFit] at fits
    have member := MembersText.last (memberWritten readable lim k (valueWritten depth x fits.1))
    simpa [memberChars, readable.quote] using member
  | depth, (k, x), m :: members, fits => by
    rw [MembersFit] at fits
    obtain ⟨gap, comma, gaps⟩ := readable.betweenItems
    have text := MembersText.more (memberWritten readable lim k (valueWritten depth x fits.1))
      (membersGap gaps (membersWritten depth m members fits.2))
    rw [memberChars, memberCharsNext, comma, readable.quote]
    simpa using text

end

theorem readWritten (j : Json) (fits : Fits lim lim.depth j) : read? lim (j.write st) = some j := by
  rw [readIff, write, String.toList_ofList]
  exact elementAlone lim (valueWritten readable lim lim.depth j fits)

end

end Handover.Json

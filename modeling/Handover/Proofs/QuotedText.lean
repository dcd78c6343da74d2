import Handover.Json.Grammar
import Handover.Json.Printer

/-!
Quoted texts: what the reader takes up to a closing quote is what the grammar spells, and nothing else. What
is written, in plain or in ASCII form, is spelt by the grammar one character at a time.
-/
namespace Handover.Json

theorem utf8RoundTrip (s : String) : String.fromUTF8? s.toUTF8 = some s := by
  have valid : s.toUTF8.IsValidUTF8 := s.isValidUTF8
  rw [String.fromUTF8?, dif_pos valid]
  exact congrArg some (String.toByteArray_inj.mp rfl)

theorem readBytesText (lim : Limits) (text : String) : readBytes? lim text.toUTF8 = read? lim text := by
  rw [readBytes?, utf8RoundTrip, Option.bind_some]

theorem textBodyUnit {a b c d : Char} {u : Nat} (rest : List Char) (read : unit? a b c d = some u)
    (high : isHigh u = false) (low : isLow u = false) :
    textBody ('\\' :: 'u' :: a :: b :: c :: d :: rest) =
      (textBody rest).map fun r => (Char.ofNat u :: r.1, r.2) := by
  by_cases next : ∃ e f g h tail, rest = '\\' :: 'u' :: e :: f :: g :: h :: tail
  · obtain ⟨e, f, g, h, tail, rfl⟩ := next
    simp [textBody.eq_3, read, high, low]
  · rw [textBody.eq_4 a b c d rest fun e f g h tail same => next ⟨e, f, g, h, tail, same⟩]
    simp [read, high, low]

theorem textBodyPair {a b c d e f g h : Char} {u l : Nat} (rest : List Char)
    (first : unit? a b c d = some u) (second : unit? e f g h = some l)
    (high : isHigh u = true) (low : isLow l = true) :
    textBody ('\\' :: 'u' :: a :: b :: c :: d :: '\\' :: 'u' :: e :: f :: g :: h :: rest) =
      (textBody rest).map fun r =>
        (Char.ofNat (0x10000 + (u - 0xD800) * 0x400 + (l - 0xDC00)) :: r.1, r.2) := by
  simp [textBody.eq_3, first, second, high, low]

theorem textBodyShort {c x : Char} (rest : List Char) (letter : c ≠ 'u')
    (short : shortEscape? c = some x) :
    textBody ('\\' :: c :: rest) = (textBody rest).map fun r => (x :: r.1, r.2) := by
  rw [textBody.eq_5 c rest (fun _ _ _ _ _ _ _ _ _ same => (letter same).elim)
    fun _ _ _ _ _ same => (letter same).elim, short]

theorem textBodyPlain {c : Char} (rest : List Char) (quote : c ≠ '"') (slash : c ≠ '\\')
    (printable : 0x20 ≤ c.toNat) :
    textBody (c :: rest) = (textBody rest).map fun r => (c :: r.1, r.2) := by
  rw [textBody.eq_6 c rest quote (fun _ _ _ _ _ _ _ _ _ same => (slash same).elim)
    (fun _ _ _ _ _ same => (slash same).elim) fun _ _ same => (slash same).elim]
  simp [slash, Nat.not_lt.mpr printable]

theorem hexRead {c : Char} {n : Nat} (hex : Hex c n) : hexValue? c = some n := by
  have small : ∀ i : Fin 16, hexValue? ("0123456789abcdef".toList[i.val]) = some i.val := by decide
  have capital : ∀ i : Fin 16, hexValue? ("0123456789ABCDEF".toList[i.val]) = some i.val := by decide
  rcases hex with digit | digit
  · obtain ⟨within, rfl⟩ := List.getElem?_eq_some_iff.mp digit
    exact small ⟨n, within⟩
  · obtain ⟨within, rfl⟩ := List.getElem?_eq_some_iff.mp digit
    exact capital ⟨n, within⟩

theorem charWithin {a b c : Char} (inside : (a ≤ c && c ≤ b) = true) :
    a.toNat ≤ c.toNat ∧ c.toNat ≤ b.toNat := by
  simpa [Char.le_def, UInt32.le_iff_toNat_le] using inside

theorem hexOfRead {c : Char} {n : Nat} (read : hexValue? c = some n) : Hex c n := by
  have digit : ∀ k < 58, 48 ≤ k → Hex (Char.ofNat k) (k - 48) := by unfold Hex; decide
  have small : ∀ k < 103, 97 ≤ k → Hex (Char.ofNat k) (k - 87) := by unfold Hex; decide
  have capital : ∀ k < 71, 65 ≤ k → Hex (Char.ofNat k) (k - 55) := by unfold Hex; decide
  have own : Char.ofNat c.toNat = c := Char.ofNat_toNat c
  unfold hexValue? at read
  split at read
  · rename_i inside
    obtain ⟨low, high⟩ := charWithin inside
    cases read
    simpa only [own] using digit c.toNat (Nat.lt_succ_of_le high) low
  split at read
  · rename_i inside
    obtain ⟨low, high⟩ := charWithin inside
    cases read
    simpa only [own] using small c.toNat (Nat.lt_succ_of_le high) low
  split at read
  · rename_i inside
    obtain ⟨low, high⟩ := charWithin inside
    cases read
    simpa only [own] using capital c.toNat (Nat.lt_succ_of_le high) low
  · cases read

theorem unitRead {ds : List Char} {u : Nat} (unit : CodeUnit ds u) :
    ∃ a b c d, ds = [a, b, c, d] ∧ unit? a b c d = some u := by
  obtain ⟨first, second, third, fourth⟩ := unit
  refine ⟨_, _, _, _, rfl, ?_⟩
  simp only [unit?, hexRead first, hexRead second, hexRead third, hexRead fourth, bind, Option.bind]
  exact congrArg some (by omega)

theorem unitOfRead {a b c d : Char} {u : Nat} (read : unit? a b c d = some u) :
    CodeUnit [a, b, c, d] u := by
  simp only [unit?, bind, Option.bind_eq_some_iff, Option.some.injEq] at read
  obtain ⟨w, first, x, second, y, third, z, fourth, same⟩ := read
  have value : u = ((w * 16 + x) * 16 + y) * 16 + z := by omega
  rw [value]
  exact .mk (hexOfRead first) (hexOfRead second) (hexOfRead third) (hexOfRead fourth)

theorem shortRead {c x : Char} (named : (c, x) ∈ shortEscapes) : c ≠ 'u' ∧ shortEscape? c = some x := by
  simp only [shortEscapes, List.mem_cons, Prod.mk.injEq, List.not_mem_nil, or_false] at named
  rcases named with ⟨rfl, rfl⟩ | ⟨rfl, rfl⟩ | ⟨rfl, rfl⟩ | ⟨rfl, rfl⟩ | ⟨rfl, rfl⟩ |
    ⟨rfl, rfl⟩ | ⟨rfl, rfl⟩ | ⟨rfl, rfl⟩ <;> exact ⟨by decide, rfl⟩

theorem shortOfRead {c x : Char} (read : shortEscape? c = some x) : (c, x) ∈ shortEscapes := by
  unfold shortEscape? at read
  split at read <;> cases read <;> decide

theorem pieceRead {piece : List Char} {x : Char} (spelled : Piece piece x) (rest : List Char) :
    textBody (piece ++ rest) = (textBody rest).map fun r => (x :: r.1, r.2) := by
  cases spelled with
  | plain visible quote slash => exact textBodyPlain rest quote slash visible
  | short named => exact textBodyShort rest (shortRead named).1 (shortRead named).2
  | unit digits whole =>
    obtain ⟨a, b, c, d, rfl, read⟩ := unitRead digits
    exact textBodyUnit rest read (by simp [isHigh]; omega) (by simp [isLow]; omega)
  | pair digits digits' high low =>
    obtain ⟨a, b, c, d, rfl, first⟩ := unitRead digits
    obtain ⟨e, f, g, h, rfl, second⟩ := unitRead digits'
    exact textBodyPair rest first second (by simpa [isHigh] using high) (by simpa [isLow] using low)

theorem quotesRead {cs xs : List Char} (quotes : Quotes cs xs) (rest : List Char) :
    textBody (cs ++ '"' :: rest) = some (xs, rest) := by
  induction quotes with
  | nil => exact textBody.eq_2 rest
  | cons first _ ih => rw [List.append_assoc, pieceRead first, ih]; rfl

theorem quotesNext {piece tail xs rest : List Char} {x : Char} (spelled : Piece piece x)
    (ih : ∀ xs rest, textBody tail = some (xs, rest) → ∃ q, tail = q ++ '"' :: rest ∧ Quotes q xs)
    (read : ((textBody tail).map fun r => (x :: r.1, r.2)) = some (xs, rest)) :
    ∃ q, piece ++ tail = q ++ '"' :: rest ∧ Quotes q xs := by
  obtain ⟨⟨ys, later⟩, found, same⟩ := Option.map_eq_some_iff.mp read
  cases same
  obtain ⟨q, rfl, quotes⟩ := ih _ _ found
  exact ⟨piece ++ q, by rw [List.append_assoc], .cons spelled quotes⟩

theorem quotesOfRead (cs xs rest : List Char) (read : textBody cs = some (xs, rest)) :
    ∃ q, cs = q ++ '"' :: rest ∧ Quotes q xs := by
  -- the reader's own cases: only where it takes a piece does the rest go on
  fun_induction textBody cs generalizing xs rest
  case case1 => cases read
  case case2 tail =>
    cases read
    exact ⟨[], rfl, .nil⟩
  case case5 u first high l second low ih =>
    exact quotesNext (.pair (unitOfRead first) (unitOfRead second) (by simpa [isHigh] using high)
      (by simpa [isLow] using low)) ih read
  case case8 u first high low ih =>
    exact quotesNext (.unit (unitOfRead first) (by simp [isHigh, isLow] at high low; omega)) ih read
  case case11 u first whole ih =>
    exact quotesNext (.unit (unitOfRead first) (by simp [isHigh, isLow] at whole; omega)) ih read
  case case13 x named ih => exact quotesNext (.short (shortOfRead named)) ih read
  case case15 c tail quote _ _ _ plain ih =>
    have solid : 0x20 ≤ c.toNat ∧ c ≠ '\\' := by simpa using plain
    exact quotesNext (.plain solid.1 quote solid.2) ih read
  all_goals cases read

theorem unitWritten {n : Nat} (small : n < 0x10000) : CodeUnit (Text.hexDigits 4 n) n := by
  have digit : ∀ d < 16, Hex (Nat.digitChar d) d := by unfold Hex; decide
  have place (m : Nat) : Hex (Nat.digitChar (m % 16)) (m % 16) := digit _ (Nat.mod_lt _ (by decide))
  have value : n = ((n / 16 / 16 / 16 % 16 * 16 + n / 16 / 16 % 16) * 16 + n / 16 % 16) * 16 + n % 16 := by
    omega
  have unit := CodeUnit.mk (place (n / 16 / 16 / 16)) (place (n / 16 / 16)) (place (n / 16)) (place n)
  rw [← value] at unit
  exact unit

theorem unitPiece {c : Char} {n : Nat} (same : n = c.toNat) (small : n < 0x10000) :
    Piece (unitEscape n) c := by
  have whole : n < 0xD800 ∨ 0xE000 ≤ n := by
    rcases c.valid with below | above
    · exact Or.inl (same ▸ below)
    · exact Or.inr (same ▸ above.1)
  have piece := Piece.unit (unitWritten small) whole
  rw [same, Char.ofNat_toNat] at piece
  rw [same]
  exact piece

theorem pairPiece {c : Char} (wide : 0x10000 ≤ c.toNat) :
    Piece (unitEscape (0xD800 + (c.toNat - 0x10000) / 0x400) ++
      unitEscape (0xDC00 + (c.toNat - 0x10000) % 0x400)) c := by
  have bound : c.toNat < 0x110000 := by
    rcases c.valid with below | above
    · have : c.toNat < 0xD800 := below
      omega
    · exact above.2
  have same : 0x10000 + (0xD800 + (c.toNat - 0x10000) / 0x400 - 0xD800) * 0x400 +
      (0xDC00 + (c.toNat - 0x10000) % 0x400 - 0xDC00) = c.toNat := by omega
  have piece := Piece.pair (unitWritten (n := 0xD800 + (c.toNat - 0x10000) / 0x400) (by omega))
    (unitWritten (n := 0xDC00 + (c.toNat - 0x10000) % 0x400) (by omega)) (by omega) (by omega)
  rw [same, Char.ofNat_toNat] at piece
  exact piece

theorem charOfCode {c : Char} {n : Nat} (same : c.toNat = n) : c = Char.ofNat n := by
  rw [← same, Char.ofNat_toNat]

theorem escapePiece (ascii : Bool) (c : Char) : Piece (escapeChar ascii c) c := by
  simp only [escapeChar]
  split
  case isTrue special =>
    rcases (by simpa using special : c = '"' ∨ c = '\\') with rfl | rfl <;> exact .short (by decide)
  case isFalse plain =>
    have quote : c ≠ '"' := fun same => plain (by simp [same])
    have slash : c ≠ '\\' := fun same => plain (by simp [same])
    split
    case isTrue same => subst same; exact .short (by decide)
    split
    case isTrue same => subst same; exact .short (by decide)
    split
    case isTrue same => subst same; exact .short (by decide)
    split
    case isTrue same => rw [charOfCode same]; exact .short (by decide)
    split
    case isTrue same => rw [charOfCode same]; exact .short (by decide)
    split
    case isTrue control => exact unitPiece rfl (by omega)
    split
    case isTrue kept => exact .plain (by omega) quote slash
    split
    case isTrue narrow => exact unitPiece rfl narrow
    case isFalse wide => exact pairPiece (by omega)

theorem quotesWritten (ascii : Bool) (cs : List Char) : Quotes (cs.flatMap (escapeChar ascii)) cs := by
  induction cs with
  | nil => exact .nil
  | cons c cs ih => exact .cons (escapePiece ascii c) ih

end Handover.Json

import Handover.Proofs.NumberText
import Handover.Proofs.QuotedText

/-!
Values: what the reader accepts is what the grammar spells. Every text of the grammar is read as its value,
and every text that is read spells the value that came out.
-/
namespace Handover.Json

theorem gapNil : Gap [] := by simp [Gap]

theorem skipGapOf {c : Char} (rest : List Char) (solid : isGap c = false) :
    skipGap (c :: rest) = c :: rest := by
  simp [skipGap, solid]

theorem skipGapAppend {gap : List Char} (rest : List Char) (gaps : Gap gap) :
    skipGap (gap ++ rest) = skipGap rest :=
  List.dropWhile_append_of_pos gaps

theorem gapSkipped (cs : List Char) : ∃ gap, cs = gap ++ skipGap cs ∧ Gap gap :=
  ⟨cs.takeWhile isGap, List.takeWhile_append_dropWhile.symm, List.all_eq_true.mp List.all_takeWhile⟩

theorem gapAppend {a b : List Char} (first : Gap a) (next : Gap b) : Gap (a ++ b) := by
  intro c inside
  exact (List.mem_append.mp inside).elim (first c) (next c)

theorem endsGap {gap rest : List Char} (gaps : Gap gap) (ends : Ends rest) : Ends (gap ++ rest) := by
  cases gap with
  | nil => exact ends
  | cons c gap =>
    have blank : ((c = ' ' ∨ c = '\t') ∨ c = '\n') ∨ c = '\r' := by
      simpa [isGap] using gaps c (by simp)
    refine endsCons _ ?_
    rcases blank with ((rfl | rfl) | rfl) | rfl <;> decide

section
variable (lim : Limits) (fuel depth : Nat) {gap : List Char} (cs : List Char) (gaps : Gap gap)
include gaps

theorem valueSkipsGap : value? lim fuel depth (gap ++ cs) = value? lim fuel depth cs := by
  cases fuel with
  | zero => rw [value?.eq_1, value?.eq_1]
  | succ fuel => rw [value?.eq_2, skipGapAppend cs gaps, value?.eq_2]

theorem itemsSkipGap : items? lim fuel depth (gap ++ cs) = items? lim fuel depth cs := by
  cases fuel with
  | zero => rw [items?.eq_1, items?.eq_1]
  | succ fuel => rw [items?.eq_2, valueSkipsGap lim fuel depth cs gaps, items?.eq_2]

theorem membersSkipGap : members? lim fuel depth (gap ++ cs) = members? lim fuel depth cs := by
  cases fuel with
  | zero => rw [members?.eq_1, members?.eq_1]
  | succ fuel => rw [members?.eq_2, skipGapAppend cs gaps, members?.eq_2]

end

section
variable {lim : Limits} {fuel depth : Nat} {cs rest : List Char}

theorem itemsSkipped (lim : Limits) (fuel depth : Nat) (cs : List Char) :
    items? lim fuel depth (skipGap cs) = items? lim fuel depth cs := by
  obtain ⟨gap, shape, gaps⟩ := gapSkipped cs
  have skipped := itemsSkipGap lim fuel depth (skipGap cs) gaps
  rw [← shape] at skipped
  exact skipped.symm

theorem membersSkipped (lim : Limits) (fuel depth : Nat) (cs : List Char) :
    members? lim fuel depth (skipGap cs) = members? lim fuel depth cs := by
  obtain ⟨gap, shape, gaps⟩ := gapSkipped cs
  have skipped := membersSkipGap lim fuel depth (skipGap cs) gaps
  rw [← shape] at skipped
  exact skipped.symm

theorem valueOfNumber {c : Char} (solid : isGap c = false)
    (other : c ≠ 'n' ∧ c ≠ 't' ∧ c ≠ 'f' ∧ c ≠ '"' ∧ c ≠ '[' ∧ c ≠ '\x7b') :
    value? lim (fuel + 1) depth (c :: cs) = number? lim (c :: cs) := by
  rw [value?.eq_2, skipGapOf cs solid]
  split <;> simp_all

theorem itemsClosed : items? lim fuel depth (']' :: cs) = none := by
  cases fuel with
  | zero => rw [items?.eq_1]
  | succ fuel =>
    have closed : value? lim fuel depth (']' :: cs) = none := by
      cases fuel with
      | zero => rw [value?.eq_1]
      | succ fuel =>
        rw [valueOfNumber rfl (by decide)]
        simp [number?, magnitude?, wholeDigits?, digitsOf, List.span_eq_takeWhile_dropWhile]
    rw [items?.eq_2, closed]

theorem membersClosed : members? lim fuel depth ('\x7d' :: cs) = none := by
  cases fuel with
  | zero => rw [members?.eq_1]
  | succ fuel => rw [members?.eq_2, skipGapOf _ rfl]; rfl

theorem valueOfItems {items : List Json} (read : items? lim fuel depth cs = some (items, rest)) :
    value? lim (fuel + 1) (depth + 1) ('[' :: cs) = some (.array items, rest) := by
  rw [value?.eq_2, skipGapOf _ rfl]
  simp only
  split
  -- where a bracket closes at once no item was read
  · rename_i closed
    rw [← itemsSkipped, closed, itemsClosed] at read
    cases read
  · rw [itemsSkipped, read]
    rfl

theorem valueOfMembers {members : List (String × Json)}
    (read : members? lim fuel depth cs = some (members, rest)) :
    value? lim (fuel + 1) (depth + 1) ('\x7b' :: cs) =
      some (.object (Table.putAll members []), rest) := by
  rw [value?.eq_2, skipGapOf _ rfl]
  simp only
  split
  · rename_i closed
    rw [← membersSkipped, closed, membersClosed] at read
    cases read
  · rw [membersSkipped, read]
    rfl

/- The grammar is followed constructor by constructor; each reader is called with fuel for the text that
is left to it. -/
mutual

theorem valueRead {depth : Nat} {cs : List Char} {j : Json} :
    ValueText lim depth cs j → ∀ fuel rest, Ends rest → cs.length < fuel →
      value? lim fuel depth (cs ++ rest) = some (j, rest)
  | .null, fuel + 1, rest, _, _ => rfl
  | .yes, fuel + 1, rest, _, _ => rfl
  | .no, fuel + 1, rest, _, _ => rfl
  | .number number, fuel + 1, rest, ends, _ => by
    have read := numberRead number ends
    obtain ⟨c, tail, rfl, solid, other, -⟩ := numberHead number
    rw [List.cons_append] at read ⊢
    rw [valueOfNumber solid other, read]
  | .string quotes, fuel + 1, rest, _, _ => by
    rw [List.cons_append, List.append_assoc, List.singleton_append, value?.eq_2, skipGapOf _ rfl]
    simp [quotesRead quotes rest]
  | .emptyArray blank, fuel + 1, rest, _, _ => by
    rw [List.cons_append, List.append_assoc, List.singleton_append, value?.eq_2, skipGapOf _ rfl]
    simp [skipGapAppend _ blank, skipGapOf rest (rfl : isGap ']' = false)]
  | .array inside, fuel + 1, rest, _, enough => by
    rw [List.cons_append, List.append_assoc, List.singleton_append]
    exact valueOfItems (itemsRead inside fuel rest (by simp at enough; omega))
  | .emptyObject blank, fuel + 1, rest, _, _ => by
    rw [List.cons_append, List.append_assoc, List.singleton_append, value?.eq_2, skipGapOf _ rfl]
    simp [skipGapAppend _ blank, skipGapOf rest (rfl : isGap '\x7d' = false)]
  | .object inside, fuel + 1, rest, _, enough => by
    rw [List.cons_append, List.append_assoc, List.singleton_append]
    exact valueOfMembers (membersRead inside fuel rest (by simp at enough; omega))

theorem elementRead {depth : Nat} {cs : List Char} {j : Json} :
    ElementText lim depth cs j → ∀ fuel rest, Ends rest → cs.length < fuel →
      ∃ gap, Gap gap ∧ value? lim fuel depth (cs ++ rest) = some (j, gap ++ rest)
  | @ElementText.mk _ _ _ _ after _ lead value trail, fuel, rest, ends, enough => by
    refine ⟨after, trail, ?_⟩
    rw [List.append_assoc, List.append_assoc, valueSkipsGap lim fuel depth _ lead]
    exact valueRead value fuel _ (endsGap trail ends) (by simp at enough; omega)

theorem itemsRead {depth : Nat} {cs : List Char} {items : List Json} :
    ItemsText lim depth cs items → ∀ fuel rest, cs.length + 1 < fuel →
      items? lim fuel depth (cs ++ ']' :: rest) = some (items, rest)
  | .last item, fuel + 1, rest, enough => by
    obtain ⟨gap, gaps, read⟩ := elementRead item fuel (']' :: rest) (endsCons _ (by decide)) (by omega)
    simp [items?, read, skipGapAppend _ gaps, skipGapOf rest (rfl : isGap ']' = false)]
  | @ItemsText.more _ _ _ others _ _ item more, fuel + 1, rest, enough => by
    rw [List.length_append, List.length_cons] at enough
    obtain ⟨gap, gaps, read⟩ := elementRead item fuel (',' :: (others ++ ']' :: rest))
      (endsCons _ (by decide)) (by omega)
    have tail := itemsRead more fuel rest (by omega)
    rw [List.append_assoc, List.cons_append]
    simp [items?, read, skipGapAppend _ gaps, skipGapOf _ (rfl : isGap ',' = false), tail]

theorem memberRead {depth : Nat} {cs : List Char} {m : String × Json} :
    MemberText lim depth cs m → ∀ fuel rest, cs.length < fuel →
      members? lim (fuel + 1) depth (cs ++ '\x7d' :: rest) = some ([m], rest) ∧
      members? lim (fuel + 1) depth (cs ++ ',' :: rest) =
        (members? lim fuel depth rest).map fun r => (m :: r.1, r.2)
  | @MemberText.mk _ _ before name xs between cs j lead quotes gap value, fuel, rest, room => by
    have enough : cs.length < fuel := by simp at room; omega
    have opened (tail : List Char) :
        skipGap (before ++ '"' :: (name ++ '"' :: (between ++ ':' :: cs)) ++ tail) =
          '"' :: (name ++ '"' :: (between ++ ':' :: (cs ++ tail))) := by
      rw [List.append_assoc, skipGapAppend _ lead, List.cons_append, skipGapOf _ rfl]
      simp
    constructor
    · obtain ⟨after, trail, read⟩ :=
        elementRead value fuel ('\x7d' :: rest) (endsCons _ (by decide)) enough
      rw [members?.eq_2, opened]
      simp [quotesRead quotes, skipGapAppend _ gap, skipGapAppend _ trail, read,
        skipGapOf _ (rfl : isGap ':' = false), skipGapOf _ (rfl : isGap '\x7d' = false)]
    · obtain ⟨after, trail, read⟩ :=
        elementRead value fuel (',' :: rest) (endsCons _ (by decide)) enough
      rw [members?.eq_2, opened]
      simp [quotesRead quotes, skipGapAppend _ gap, skipGapAppend _ trail, read,
        skipGapOf _ (rfl : isGap ':' = false), skipGapOf _ (rfl : isGap ',' = false)]

theorem membersRead {depth : Nat} {cs : List Char} {members : List (String × Json)} :
    MembersText lim depth cs members → ∀ fuel rest, cs.length + 1 < fuel →
      members? lim fuel depth (cs ++ '\x7d' :: rest) = some (members, rest)
  | .last member, fuel + 1, rest, enough => (memberRead member fuel rest (by omega)).1
  | @MembersText.more _ _ _ others _ _ member more, fuel + 1, rest, enough => by
    rw [List.length_append, List.length_cons] at enough
    rw [List.append_assoc, List.cons_append, (memberRead member fuel _ (by omega)).2,
      membersRead more fuel rest (by omega)]
    rfl

end

theorem elementTaken {before v : List Char} {j : Json} {depth : Nat} (lead : Gap before)
    (value : ValueText lim depth v j) (same : cs = before ++ (v ++ rest)) {c : Char} {tail : List Char}
    (next : skipGap rest = c :: tail) :
    ∃ element, cs = element ++ c :: tail ∧ ElementText lim depth element j := by
  obtain ⟨after, shape, trail⟩ := gapSkipped rest
  refine ⟨before ++ (v ++ after), ?_, .mk lead value trail⟩
  rw [same, shape, next]
  simp only [List.append_assoc]

theorem elementGap {gap : List Char} {j : Json} {depth : Nat} (gaps : Gap gap)
    (element : ElementText lim depth cs j) : ElementText lim depth (gap ++ cs) j := by
  obtain ⟨lead, value, trail⟩ := element
  rw [← List.append_assoc]
  exact .mk (gapAppend gaps lead) value trail

theorem itemsGap {gap : List Char} {items : List Json} {depth : Nat} (gaps : Gap gap)
    (inside : ItemsText lim depth cs items) : ItemsText lim depth (gap ++ cs) items := by
  cases inside with
  | last item => exact .last (elementGap gaps item)
  | more item others =>
    rw [← List.append_assoc]
    exact .more (elementGap gaps item) others

theorem memberGap {gap : List Char} {m : String × Json} {depth : Nat} (gaps : Gap gap)
    (member : MemberText lim depth cs m) : MemberText lim depth (gap ++ cs) m := by
  obtain ⟨lead, quotes, between, value⟩ := member
  rw [← List.append_assoc]
  exact .mk (gapAppend gaps lead) quotes between value

theorem membersGap {gap : List Char} {members : List (String × Json)} {depth : Nat} (gaps : Gap gap)
    (inside : MembersText lim depth cs members) : MembersText lim depth (gap ++ cs) members := by
  cases inside with
  | last member => exact .last (memberGap gaps member)
  | more member others =>
    rw [← List.append_assoc]
    exact .more (memberGap gaps member) others

/- The three readers call each other with one unit of fuel less, so the induction is on the fuel. -/
mutual

theorem valueOfRead : ∀ (fuel depth : Nat) {cs rest : List Char} {j : Json},
    value? lim fuel depth cs = some (j, rest) →
      ∃ gap v, cs = gap ++ (v ++ rest) ∧ Gap gap ∧ ValueText lim depth v j
  | 0, depth, cs, rest, j, read => by
    rw [value?] at read
    cases read
  | fuel + 1, depth, cs, rest, j, read => by
    obtain ⟨gap, shape, gaps⟩ := gapSkipped cs
    suffices found : ∃ v, skipGap cs = v ++ rest ∧ ValueText lim depth v j by
      obtain ⟨v, same, value⟩ := found
      exact ⟨gap, v, by rw [← same]; exact shape, gaps, value⟩
    rw [value?] at read
    split at read
    · rename_i head
      cases read
      exact ⟨_, head, .null⟩
    · rename_i head
      cases read
      exact ⟨_, head, .yes⟩
    · rename_i head
      cases read
      exact ⟨_, head, .no⟩
    · rename_i head
      obtain ⟨⟨xs, later⟩, body, same⟩ := Option.map_eq_some_iff.mp read
      cases same
      obtain ⟨q, rfl, quotes⟩ := quotesOfRead _ _ _ body
      exact ⟨'"' :: (q ++ ['"']), by rw [head]; simp, .string quotes⟩
    · rename_i inner head
      cases depth with
      | zero => cases read
      | succ depth =>
        obtain ⟨blank, opened, blanks⟩ := gapSkipped inner
        simp only at read
        split at read
        · rename_i closed
          cases read
          rw [closed] at opened
          exact ⟨'[' :: (blank ++ [']']), by rw [head, opened]; simp, .emptyArray blanks⟩
        · obtain ⟨⟨items, later⟩, found, same⟩ := Option.map_eq_some_iff.mp read
          cases same
          obtain ⟨body, cut, inside⟩ := itemsOfRead fuel depth found
          rw [cut] at opened
          exact ⟨'[' :: (blank ++ body ++ [']']), by rw [head, opened]; simp,
            .array (itemsGap blanks inside)⟩
    · rename_i inner head
      cases depth with
      | zero => cases read
      | succ depth =>
        obtain ⟨blank, opened, blanks⟩ := gapSkipped inner
        simp only at read
        split at read
        · rename_i closed
          cases read
          rw [closed] at opened
          exact ⟨'\x7b' :: (blank ++ ['\x7d']), by rw [head, opened]; simp, .emptyObject blanks⟩
        · obtain ⟨⟨members, later⟩, found, same⟩ := Option.map_eq_some_iff.mp read
          cases same
          obtain ⟨body, cut, inside⟩ := membersOfRead fuel depth found
          rw [cut] at opened
          exact ⟨'\x7b' :: (blank ++ body ++ ['\x7d']), by rw [head, opened]; simp,
            .object (membersGap blanks inside)⟩
    · obtain ⟨v, same, number⟩ := numberOfRead read
      exact ⟨v, same, .number number⟩

theorem itemsOfRead : ∀ (fuel depth : Nat) {cs rest : List Char} {items : List Json},
    items? lim fuel depth cs = some (items, rest) →
      ∃ body, cs = body ++ ']' :: rest ∧ ItemsText lim depth body items
  | 0, depth, cs, rest, items, read => by
    rw [items?] at read
    cases read
  | fuel + 1, depth, cs, rest, items, read => by
    rw [items?] at read
    split at read
    · cases read
    rename_i first
    obtain ⟨gap, v, shape, gaps, value⟩ := valueOfRead fuel depth first
    split at read
    · rename_i next
      cases read
      obtain ⟨element, taken, item⟩ := elementTaken gaps value shape next
      exact ⟨element, taken, .last item⟩
    · rename_i next
      obtain ⟨⟨others, last⟩, found, same⟩ := Option.map_eq_some_iff.mp read
      cases same
      obtain ⟨element, taken, item⟩ := elementTaken gaps value shape next
      obtain ⟨body, rfl, inside⟩ := itemsOfRead fuel depth found
      exact ⟨element ++ ',' :: body, by rw [taken]; simp, .more item inside⟩
    · cases read

theorem membersOfRead : ∀ (fuel depth : Nat) {cs rest : List Char} {members : List (String × Json)},
    members? lim fuel depth cs = some (members, rest) →
      ∃ body, cs = body ++ '\x7d' :: rest ∧ MembersText lim depth body members
  | 0, depth, cs, rest, members, read => by
    rw [members?] at read
    cases read
  | fuel + 1, depth, cs, rest, members, read => by
    obtain ⟨lead, shape, leads⟩ := gapSkipped cs
    rw [members?] at read
    split at read <;> try contradiction
    rename_i opened
    split at read <;> try contradiction
    rename_i name behind body
    split at read <;> try contradiction
    rename_i colon
    split at read <;> try contradiction
    rename_i first
    obtain ⟨q, rfl, quotes⟩ := quotesOfRead _ _ _ body
    obtain ⟨between, parted, betweens⟩ := gapSkipped behind
    obtain ⟨gap, v, spelt, gaps, value⟩ := valueOfRead fuel depth first
    rw [colon] at parted
    rw [opened, parted] at shape
    split at read
    · rename_i next
      cases read
      obtain ⟨element, rfl, item⟩ := elementTaken gaps value spelt next
      exact ⟨_, by rw [shape]; simp, .last (.mk leads quotes betweens item)⟩
    · rename_i next
      obtain ⟨⟨others, last⟩, found, same⟩ := Option.map_eq_some_iff.mp read
      cases same
      obtain ⟨element, rfl, item⟩ := elementTaken gaps value spelt next
      obtain ⟨rest', rfl, inside⟩ := membersOfRead fuel depth found
      exact ⟨_, by rw [shape]; simp, .more (.mk leads quotes betweens item) inside⟩
    · cases read

end

theorem readIff {s : String} {j : Json} :
    read? lim s = some j ↔ ElementText lim lim.depth s.toList j := by
  rw [read?, readChars?]
  constructor
  · intro read
    split at read <;> try contradiction
    rename_i value rest found
    split at read <;> try contradiction
    rename_i closed
    cases read
    obtain ⟨gap, v, shape, gaps, value⟩ := valueOfRead _ _ found
    obtain ⟨after, behind, trail⟩ := gapSkipped rest
    rw [List.isEmpty_iff.mp closed, List.append_nil] at behind
    rw [shape, behind]
    exact .mk gaps value trail
  · intro element
    obtain ⟨gap, gaps, read⟩ := elementRead element (2 * s.toList.length + 2) [] endsNil (by omega)
    have ended : skipGap (gap ++ []) = [] := skipGapAppend [] gaps
    rw [List.append_nil] at read
    rw [read]
    simp only [ended, List.isEmpty_nil, if_true]

end

end Handover.Json

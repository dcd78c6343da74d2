import Mathlib.Data.List.Induction
import Handover.Proofs.Authority
import Handover.Proofs.Succession

/-!
Acceptances that race for one offer. The first that the successor sends wins, whoever else sends before
and after it; all others are refused, and no order of them ends differently. Over a whole course each
acceptance that was kept used up a proposal of its own.
-/
namespace Handover

def Call.Accepts (ns : String) (c : Call) : Prop :=
  c.service.ns = ns ∧ ∃ caller, c.asked = .update caller .acceptProposed

theorem acceptanceVerdict {c : Call} {st : State} {caller : Option Party}
    (asked : c.asked = .update caller .acceptProposed) (live : st ≠ .abolished) :
    c.verdict st = if st.proposed = none ∨ st.proposed ≠ caller then .error (.fault .notProposed)
      else .ok (.owned caller) := by
  have judged : c.verdict st = (carryOut c.validator (st.planChange caller .acceptProposed)).1 := by
    rw [Call.verdict, asked]
    rfl
  rw [judged, State.planChange, if_neg live]
  change (carryOut _ (if _ then _ else _)).1 = _
  split <;> rfl

theorem successorVerdict {c : Call} {p : Identity} (own : c.asked = .acceptance p) (a : Identity) :
    c.verdict (.offered (some (.identity a)) (some (.identity p))) =
      .ok (.owned (some (.identity p))) := by
  rw [acceptanceVerdict own (by simp), if_neg (by simp [State.proposed])]

theorem firstAcceptance {calls : List Call} {p : Identity}
    (sent : ∃ c ∈ calls, c.asked = .acceptance p) :
    ∃ before c later, calls = before ++ c :: later ∧ c.asked = .acceptance p ∧
      (∀ d ∈ before, d.asked ≠ .acceptance p) ∧
      calls.find? (fun c => c.asked = .acceptance p) = some c := by
  cases found : calls.find? fun c => c.asked = .acceptance p with
  | none =>
    obtain ⟨c, member, own⟩ := sent
    simp only [List.find?_eq_none, decide_eq_true_eq] at found
    exact (found c member own).elim
  | some c =>
    obtain ⟨own, before, later, rfl, strangers⟩ := List.find?_eq_some_iff_append.mp found
    refine ⟨before, c, later, rfl, of_decide_eq_true own, ?_, rfl⟩
    intro d member
    simpa using strangers d member

namespace Course

def winners (s : Store) : List Call → List Call
  | [] => []
  | c :: rest =>
    match c.outcome s with
    | .ok _ => c :: winners (c.after s) rest
    | .error _ => winners (c.after s) rest

theorem winnersAppend (s : Store) (calls more : List Call) :
    winners s (calls ++ more) = winners s calls ++ winners (runFrom s calls) more := by
  induction calls generalizing s with
  | nil => rfl
  | cons c rest ih =>
    rw [List.cons_append, winners, winners, ih]
    cases c.outcome s <;> rfl

theorem runBehind {past before : List Call} (quiet : run (past ++ before) = run past)
    (rest : List Call) : run (past ++ (before ++ rest)) = run (past ++ rest) := by
  rw [← List.append_assoc, runAppend, quiet, ← runAppend]

theorem refusedThroughout {past calls : List Call} {ns : String} {st : State}
    (known : (run past).stateAt ns = .ok st)
    (refused : ∀ c ∈ calls, c.service.ns = ns ∧ ∃ e, c.verdict st = .error e) :
    run (past ++ calls) = run past ∧ winners (run past) calls = [] := by
  rw [runAppend]
  induction calls with
  | nil => exact ⟨rfl, rfl⟩
  | cons c rest ih =>
    obtain ⟨rfl, e, unfavourable⟩ := refused c List.mem_cons_self
    have settled := (outcomeReached c known).trans unfavourable
    have same : c.after (run past) = run past := by
      rw [← runSnoc]
      exact runRefused known unfavourable
    have later := ih fun d member => refused d (List.mem_cons_of_mem _ member)
    rw [winners, settled, same]
    refine ⟨?_, later.2⟩
    rw [runFrom, List.foldl_cons, same]
    exact later.1

/-- What comes of acceptances that race for an offer to `p`. Each is answered as it is decided if its log
takes the entry. -/
structure Race (past : List Call) (ns : String) (p : Identity) (calls : List Call) : Prop where
  winner : winners (run past) calls = (calls.find? fun c => c.asked = .acceptance p).toList
  first : ∀ before c later, calls = before ++ c :: later → c.asked = .acceptance p →
    (∀ d ∈ before, d.asked ≠ .acceptance p) →
    c.outcome (run (past ++ before)) = .ok (.owned (some (.identity p))) ∧
      (c.Told (.ok (.owned (some (.identity p)))) → c.answer (run (past ++ before)) =
        .ok (.event ⟨ns, "AcceptProposed", some p.name, none, p.name⟩))
  others : ∀ before c later, calls = before ++ c :: later →
    (c.asked = .acceptance p → ∃ d ∈ before, d.asked = .acceptance p) →
    c.outcome (run (past ++ before)) = .error (.fault .notProposed) ∧
      (c.Told (.error (.fault .notProposed)) →
        c.answer (run (past ++ before)) = .error (.fault .notProposed))
  won : (∃ c ∈ calls, c.asked = .acceptance p) →
    (run (past ++ calls)).stateAt ns = .ok (.owned (some (.identity p)))
  unchanged : (∀ c ∈ calls, c.asked ≠ .acceptance p) → run (past ++ calls) = run past
  order : ∀ calls', calls.Perm calls' → run (past ++ calls') = run (past ++ calls) ∧
    (winners (run past) calls').length = (winners (run past) calls).length

section
variable {past calls : List Call} {ns : String} {a p : Identity}
  (offered : (run past).stateAt ns = .ok (.offered (some (.identity a)) (some (.identity p))))
  (accepts : ∀ c ∈ calls, c.Accepts ns)
include offered accepts

theorem strangersRefused (strangers : ∀ c ∈ calls, c.asked ≠ .acceptance p) :
    run (past ++ calls) = run past ∧ winners (run past) calls = [] := by
  refine refusedThroughout offered fun c member => ?_
  obtain ⟨here, caller, asked⟩ := accepts c member
  refine ⟨here, .fault .notProposed, ?_⟩
  rw [acceptanceVerdict asked (by simp), if_pos]
  refine Or.inr fun same => strangers c member ?_
  rw [asked, ← same]
  rfl

theorem firstKept {before later : List Call} {c : Call} (split : calls = before ++ c :: later)
    (own : c.asked = .acceptance p) (strangers : ∀ d ∈ before, d.asked ≠ .acceptance p) :
    c.outcome (run (past ++ before)) = .ok (.owned (some (.identity p))) := by
  subst split
  obtain ⟨rfl, -⟩ := accepts c (by simp)
  have quiet := strangersRefused offered (fun d member => accepts d (List.mem_append_left _ member))
    strangers
  rw [quiet.1, outcomeReached c offered]
  exact successorVerdict own a

theorem raceWon (sent : ∃ c ∈ calls, c.asked = .acceptance p) :
    winners (run past) calls = (calls.find? fun c => c.asked = .acceptance p).toList ∧
    ∀ b, run past = .bytes b → run (past ++ calls) =
      .bytes (b.plant ns (State.owned (some (.identity p))).form.toBytes) := by
  obtain ⟨before, c, later, rfl, own, strangers, found⟩ := firstAcceptance sent
  have quiet := strangersRefused offered (fun d member => accepts d (List.mem_append_left _ member))
    strangers
  obtain ⟨rfl, -⟩ := accepts c (by simp)
  have favourable := successorVerdict own a
  -- behind the winner the offer is gone, for the successor as well
  have after : run (past ++ [c] ++ later) = run (past ++ [c]) ∧
      winners (run (past ++ [c])) later = [] := by
    refine refusedThroughout (runTaken offered favourable).1 fun d member => ?_
    obtain ⟨there, caller, asked⟩ := accepts d (by simp [member])
    exact ⟨there, .fault .notProposed, by rw [acceptanceVerdict asked (by simp)]; rfl⟩
  constructor
  · rw [found, winnersAppend, quiet.2, ← runAppend, quiet.1, winners,
      (outcomeReached c offered).trans favourable, ← runSnoc, after.2]
    rfl
  · intro b bytes
    have stored := (Call.mutationKept (leadsFilled (leadsReached offered)) (bytes ▸ offered)
      favourable).2
    rw [← bytes, ← runSnoc, ← after.1, List.append_assoc] at stored
    rw [runBehind quiet.1]
    exact stored

theorem raceOwned (sent : ∃ c ∈ calls, c.asked = .acceptance p) :
    (run (past ++ calls)).stateAt ns = .ok (.owned (some (.identity p))) := by
  obtain ⟨b, bytes⟩ := runBytes past
  rw [(raceWon offered accepts sent).2 b bytes]
  exact b.stateAtPlant ns (.owned p)

theorem lateRefused {before later : List Call} {c : Call} (split : calls = before ++ c :: later)
    (late : c.asked = .acceptance p → ∃ d ∈ before, d.asked = .acceptance p) :
    c.outcome (run (past ++ before)) = .error (.fault .notProposed) := by
  subst split
  obtain ⟨here, caller, asked⟩ := accepts c (by simp)
  have own : ∀ d ∈ before, d.Accepts ns := fun d member => accepts d (List.mem_append_left _ member)
  subst here
  by_cases taken : ∃ d ∈ before, d.asked = .acceptance p
  · rw [outcomeReached c (raceOwned offered own taken), acceptanceVerdict asked (by simp)]
    rfl
  · have strangers : ∀ d ∈ before, d.asked ≠ .acceptance p :=
      fun d member sent => taken ⟨d, member, sent⟩
    have quiet := (strangersRefused offered own strangers).1
    rw [quiet, outcomeReached c offered, acceptanceVerdict asked (by simp), if_pos]
    refine Or.inr fun same => taken (late ?_)
    rw [asked, ← same]
    rfl

theorem raceAnyOrder {calls' : List Call} (order : calls.Perm calls') :
    run (past ++ calls') = run (past ++ calls) ∧
      (winners (run past) calls').length = (winners (run past) calls).length := by
  have accepts' : ∀ c ∈ calls', c.Accepts ns := fun c member => accepts c (order.mem_iff.mpr member)
  by_cases sent : ∃ c ∈ calls, c.asked = .acceptance p
  · have sent' : ∃ c ∈ calls', c.asked = .acceptance p := by
      obtain ⟨c, member, own⟩ := sent
      exact ⟨c, order.mem_iff.mp member, own⟩
    obtain ⟨-, c, -, -, -, -, found⟩ := firstAcceptance sent
    obtain ⟨-, c', -, -, -, -, found'⟩ := firstAcceptance sent'
    obtain ⟨winner, stored⟩ := raceWon offered accepts sent
    obtain ⟨winner', stored'⟩ := raceWon offered accepts' sent'
    obtain ⟨b, bytes⟩ := runBytes past
    rw [stored b bytes, stored' b bytes, winner, winner', found, found']
    exact ⟨rfl, rfl⟩
  · have strangers : ∀ c ∈ calls, c.asked ≠ .acceptance p :=
      fun c member own => sent ⟨c, member, own⟩
    have quiet := strangersRefused offered accepts strangers
    have quiet' := strangersRefused offered accepts' fun c member =>
      strangers c (order.mem_iff.mpr member)
    rw [quiet.1, quiet.2, quiet'.1, quiet'.2]
    exact ⟨rfl, rfl⟩

theorem raceSettled : Race past ns p calls where
  winner := by
    by_cases sent : ∃ c ∈ calls, c.asked = .acceptance p
    · exact (raceWon offered accepts sent).1
    · have strangers : ∀ c ∈ calls, c.asked ≠ .acceptance p :=
        fun c member own => sent ⟨c, member, own⟩
      have none : calls.find? (fun c => c.asked = .acceptance p) = none := by
        simpa using strangers
      rw [(strangersRefused offered accepts strangers).2, none]
      rfl
  first before c later split own strangers := by
    have kept := firstKept offered accepts split own strangers
    obtain ⟨here, -⟩ := accepts c (by simp [split])
    refine ⟨kept, fun told => ?_⟩
    rw [Call.answerOutcome, kept, Call.answerTold told, Except.map, Call.reply, own, here]
    rfl
  others before c later split late := by
    have refused := lateRefused offered accepts split late
    refine ⟨refused, fun told => ?_⟩
    rw [Call.answerOutcome, refused, Call.answerTold told]
    rfl
  won := raceOwned offered accepts
  unchanged strangers := (strangersRefused offered accepts strangers).1
  order _ := raceAnyOrder offered accepts

end

def KeptAt (calls : List Call) (ns : String) (place : Nat) (m : Mutation) : Prop :=
  ∃ c, calls[place]? = some c ∧ c.service.ns = ns ∧ c.asked = m ∧ c.Taken (run (calls.take place))

theorem keptAtPlaced {calls : List Call} {ns : String} {place : Nat} {m : Mutation}
    (kept : KeptAt calls ns place m) : place < calls.length := by
  obtain ⟨c, placed, -⟩ := kept
  exact (List.getElem?_eq_some_iff.mp placed).1

theorem keptAtSame {calls : List Call} {ns ns' : String} {place : Nat} {m m' : Mutation}
    (kept : KeptAt calls ns place m) (kept' : KeptAt calls ns' place m') : ns = ns' ∧ m = m' := by
  obtain ⟨c, placed, rfl, rfl, -⟩ := kept
  obtain ⟨c', placed', rfl, rfl, -⟩ := kept'
  have same : c = c' := Option.some.inj (placed.symm.trans placed')
  rw [same]
  exact ⟨rfl, rfl⟩

theorem keptAtTake {calls : List Call} {ns : String} {place count : Nat} {m : Mutation} :
    KeptAt (calls.take count) ns place m ↔ place < count ∧ KeptAt calls ns place m := by
  unfold KeptAt
  by_cases early : place < count
  · rw [List.getElem?_take_of_lt early, List.take_take, Nat.min_eq_left (Nat.le_of_lt early)]
    simp [early]
  · rw [List.getElem?_take_eq_none (Nat.le_of_not_lt early)]
    simp [early]

theorem keptAtSnoc {calls : List Call} {c : Call} {ns : String} {place : Nat} {m : Mutation} :
    KeptAt (calls ++ [c]) ns place m ↔ KeptAt calls ns place m ∨
      place = calls.length ∧ c.service.ns = ns ∧ c.asked = m ∧ c.Taken (run calls) := by
  rcases Nat.lt_trichotomy place calls.length with early | rfl | late
  · have taken : KeptAt ((calls ++ [c]).take calls.length) ns place m ↔
        place < calls.length ∧ KeptAt (calls ++ [c]) ns place m := keptAtTake
    rw [List.take_left] at taken
    simp [taken, early, Nat.ne_of_lt early]
  · have absent : ¬ KeptAt calls ns calls.length m := fun kept => by
      simpa using keptAtPlaced kept
    simp [KeptAt]
  · have absent : ¬ KeptAt (calls ++ [c]) ns place m := fun kept => by
      have placed := keptAtPlaced kept
      rw [List.length_append, List.length_singleton] at placed
      omega
    have earlier : ¬ KeptAt calls ns place m := fun kept => by
      have placed := keptAtPlaced kept
      omega
    simp [absent, earlier, Nat.ne_of_gt late]

theorem lastKept {calls : List Call} {ns : String} {m : Mutation}
    (last : (history ns calls).getLast? = some m) :
    ∃ place, KeptAt calls ns place m ∧ ∀ later m', place < later → ¬ KeptAt calls ns later m' := by
  induction calls using List.reverseRecOn with
  | nil => cases last
  | append_singleton calls c ih =>
    rw [historySnoc] at last
    by_cases kept : c.service.ns = ns ∧ c.Taken (run calls)
    · obtain ⟨here, next, settled⟩ := kept
      simp only [added, settled, if_pos here, List.getLast?_concat, Option.some.injEq] at last
      refine ⟨calls.length, keptAtSnoc.mpr (Or.inr ⟨rfl, here, last, next, settled⟩), ?_⟩
      intro later m' behind kept
      have placed := keptAtPlaced kept
      rw [List.length_append, List.length_singleton] at placed
      omega
    · have nothing : added ns (run calls) c = [] := by
        unfold added
        split
        · rename_i next settled
          exact if_neg fun here => kept ⟨here, next, settled⟩
        · rfl
      rw [nothing, List.append_nil] at last
      obtain ⟨place, known, alone⟩ := ih last
      refine ⟨place, keptAtSnoc.mpr (Or.inl known), fun later m' behind keptLater => ?_⟩
      rcases keptAtSnoc.mp keptLater with earlier | ⟨-, here, -, taken⟩
      · exact alone later m' behind earlier
      · exact kept ⟨here, taken⟩

def Consumes (calls : List Call) (ns : String) (caller : Option Party) (source place : Nat) : Prop :=
  source < place ∧
    (∃ a b : Identity, caller = some (.identity b) ∧ KeptAt calls ns source (.proposal a b)) ∧
    ∀ later m, source < later → later < place → ¬ KeptAt calls ns later m

theorem acceptanceSource {calls : List Call} {ns : String} {place : Nat} {caller : Option Party}
    (kept : KeptAt calls ns place (.update caller .acceptProposed)) :
    ∃ source, Consumes calls ns caller source place := by
  obtain ⟨c, -, rfl, asked, next, settled⟩ := kept
  obtain ⟨st, known, led⟩ := reached (calls.take place) c.service.ns
  have moved := Call.verdictMoves (leadsFilled led) ((outcomeReached c known).symm.trans settled)
  rw [asked] at moved
  obtain ⟨a, b, rfl, held, named, -⟩ := moveOfAcceptance moved
  obtain ⟨source, proposed, alone⟩ := lastKept ((offerIffLast led a b).mp ⟨held, named⟩)
  rw [keptAtTake] at proposed
  refine ⟨source, proposed.1, ⟨a, b, rfl, proposed.2⟩, fun later m behind before kept => ?_⟩
  exact alone later m behind (keptAtTake.mpr ⟨before, kept⟩)

theorem consumedOnce {calls : List Call} {ns ns' : String} {caller caller' : Option Party}
    {source place place' : Nat} (consumed : Consumes calls ns caller source place)
    (consumed' : Consumes calls ns' caller' source place')
    (kept : KeptAt calls ns place (.update caller .acceptProposed))
    (kept' : KeptAt calls ns' place' (.update caller' .acceptProposed)) : place = place' := by
  obtain ⟨before, ⟨a, b, -, proposed⟩, alone⟩ := consumed
  obtain ⟨before', ⟨a', b', -, proposed'⟩, alone'⟩ := consumed'
  obtain ⟨rfl, -⟩ := keptAtSame proposed proposed'
  rcases Nat.lt_trichotomy place place' with earlier | equal | later
  · exact (alone' place _ before earlier kept).elim
  · exact equal
  · exact (alone place' _ before' later kept').elim

/-- Racing acceptances have a single winner in every order. In every course the acceptances that were
kept go back to proposals that were kept before them, each to one of its own. -/
theorem oneAcceptanceWins (past : List Call) :
    (∀ (ns : String) (a p : Identity),
      (run past).stateAt ns = .ok (.offered (some (.identity a)) (some (.identity p))) →
      ∀ calls : List Call, (∀ c ∈ calls, c.Accepts ns) → Race past ns p calls) ∧
    ∃ source : Nat → Nat,
      (∀ place ns caller, KeptAt past ns place (.update caller .acceptProposed) →
        source place < place ∧ ∃ a b : Identity, caller = some (.identity b) ∧
          KeptAt past ns (source place) (.proposal a b)) ∧
      ∀ place ns caller place' ns' caller',
        KeptAt past ns place (.update caller .acceptProposed) →
        KeptAt past ns' place' (.update caller' .acceptProposed) →
        source place = source place' → place = place' := by
  refine ⟨fun ns a p offered calls accepts => raceSettled offered accepts, ?_⟩
  have chosen (place : Nat) : ∃ source, ∀ ns caller,
      KeptAt past ns place (.update caller .acceptProposed) → Consumes past ns caller source place := by
    by_cases kept : ∃ ns caller, KeptAt past ns place (.update caller .acceptProposed)
    · obtain ⟨ns, caller, kept⟩ := kept
      obtain ⟨source, consumed⟩ := acceptanceSource kept
      refine ⟨source, fun ns' caller' kept' => ?_⟩
      obtain ⟨rfl, same⟩ := keptAtSame kept kept'
      cases same
      exact consumed
    · exact ⟨0, fun ns caller here => (kept ⟨ns, caller, here⟩).elim⟩
  choose source consumed using chosen
  refine ⟨source, fun place ns caller kept => ?_, ?_⟩
  · obtain ⟨before, proposed, -⟩ := consumed place ns caller kept
    exact ⟨before, proposed⟩
  · intro place ns caller place' ns' caller' kept kept' same
    have consumed' := consumed place' ns' caller' kept'
    rw [← same] at consumed'
    exact consumedOnce (consumed place ns caller kept) consumed' kept kept'

def accepting (sender : String) : Call := Call.onConsole [] (.acceptance ⟨sender⟩)

theorem milesWinsOnce :
    winners (run peterOffers) [accepting "eve", accepting "miles", accepting "miles"] =
        [accepting "miles"] ∧
      (accepting "eve").answer (run peterOffers) = .error (.fault .notProposed) ∧
      ∃ source, source < 2 ∧ ∃ a b, KeptAt (peterOffers ++ [accepting "miles"]) "xyz" source
        (.proposal a b) := by
  have race := (oneAcceptanceWins peterOffers).1 "xyz" ⟨"peter"⟩ ⟨"miles"⟩ peterOffered
    [accepting "eve", accepting "miles", accepting "miles"] (by
      simp only [List.forall_mem_cons]
      exact ⟨⟨rfl, _, rfl⟩, ⟨rfl, _, rfl⟩, ⟨rfl, _, rfl⟩, by simp⟩)
  refine ⟨race.winner, ?_, ?_⟩
  · have told : (accepting "eve").Told (.error (.fault .notProposed)) :=
      Call.toldLegible (Call.legibleConsole Audit.legibleNone) _
    have refused := race.others [] (accepting "eve") [accepting "miles", accepting "miles"] rfl
      fun own => absurd own (by decide)
    rw [List.append_nil] at refused
    exact refused.2 told
  · obtain ⟨source, consumed, -⟩ := (oneAcceptanceWins (peterOffers ++ [accepting "miles"])).2
    have taken : (accepting "miles").Taken (run peterOffers) :=
      ⟨_, (outcomeReached (accepting "miles") peterOffered).trans rfl⟩
    obtain ⟨before, a, b, -, proposed⟩ := consumed 2 "xyz" _ ⟨accepting "miles", rfl, rfl, rfl, taken⟩
    exact ⟨source 2, before, a, b, proposed⟩

end Course

end Handover

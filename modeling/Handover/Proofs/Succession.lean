import Handover.Proofs.Course

/-!
Succession of the admin. An offer stands exactly while the proposal that made it is the last thing
taken in its namespace, so an admin is succeeded by acceptance of that very proposal and in no other
way: a proposal that was cleared, overwritten or accepted before is not the last one.
-/
namespace Handover

namespace Mutation

def proposal (admin successor : Identity) : Mutation :=
  .update (some (.identity admin)) (.proposeNewAdmin (.string successor.name))

def acceptance (successor : Identity) : Mutation := .update (some (.identity successor)) .acceptProposed

theorem leavesOffer {m : Mutation} {admin successor : Identity}
    (offered : m.leaves = .offered (some (.identity admin)) (some (.identity successor))) :
    m = .proposal admin successor := by
  cases m with
  | establish r => cases r <;> cases offered
  | update caller r =>
    cases r with
    | proposeNewAdmin raw =>
      simp only [leaves, State.offered.injEq] at offered
      obtain ⟨rfl, named⟩ := offered
      cases raw with
      | string s => cases named; rfl
      | _ => cases named
    | _ => cases offered

end Mutation

theorem stateOfOffer {s : State} {admin successor : Identity} (held : s.admin = some (.identity admin))
    (named : s.proposed = some (.identity successor)) :
    s = .offered (some (.identity admin)) (some (.identity successor)) := by
  cases s with
  | offered a p => cases held; cases named; rfl
  | _ => cases named

theorem offerIffLast {past : List Mutation} {s : State} (led : Leads past s)
    (admin successor : Identity) :
    s.admin = some (.identity admin) ∧ s.proposed = some (.identity successor) ↔
      past.getLast? = some (.proposal admin successor) := by
  have state := leadsLast led
  constructor
  · intro offer
    have offered := stateOfOffer offer.1 offer.2
    rw [offered] at state
    cases last : past.getLast? with
    | none => rw [last] at state; cases state
    | some m =>
      rw [last] at state
      rw [Mutation.leavesOffer state.symm]
  · intro last
    rw [last] at state
    subst state
    exact ⟨rfl, rfl⟩

theorem moveOfAdmin {s next : State} {m : Mutation} {a b : Identity} (moved : Moves s m next)
    (before : s.admin = some (.identity a)) (after : next.admin = some (.identity b)) (other : a ≠ b) :
    m = .acceptance b ∧ s.proposed = some (.identity b) := by
  -- a move that keeps the admin would have both names for the same place
  have kept {i : Identity} (held : s.admin = some (.identity i)) (same : i = b) : False := by
    rw [held] at before
    cases before
    exact other same
  cases moved with
  | begin admin => cases before
  | forgo => cases before
  | propose admin proposed held => cases after; exact (kept held rfl).elim
  | clear admin held => cases after; exact (kept held rfl).elim
  | accept admin successor => cases after; exact ⟨rfl, rfl⟩
  | abolish admin held => cases after

theorem moveOfAcceptance {s next : State} {caller : Option Party}
    (moved : Moves s (.update caller .acceptProposed) next) :
    ∃ a b : Identity, caller = some (.identity b) ∧ s.admin = some (.identity a) ∧
      s.proposed = some (.identity b) ∧ next.admin = some (.identity b) := by
  cases moved with
  | accept admin successor => exact ⟨admin, successor, rfl, rfl, rfl, rfl⟩

namespace Course

/-- After every course an offer stands exactly if the last mutation taken in the namespace proposed it.
One more call changes a set admin only by accepting, and accepts only what was proposed last. -/
theorem successionByLastProposal (calls : List Call) (ns : String) :
    ∃ st, (run calls).stateAt ns = .ok st ∧
      (∀ admin successor : Identity,
        st.admin = some (.identity admin) ∧ st.proposed = some (.identity successor) ↔
          (history ns calls).getLast? = some (.proposal admin successor)) ∧
      ∀ c : Call, ∃ next, (run (calls ++ [c])).stateAt ns = .ok next ∧
        (∀ a b : Identity, st.admin = some (.identity a) → next.admin = some (.identity b) → a ≠ b →
          c.service.ns = ns ∧ c.Taken (run calls) ∧ c.asked = .acceptance b ∧
            (history ns calls).getLast? = some (.proposal a b)) ∧
        (∀ caller, c.service.ns = ns → c.asked = .update caller .acceptProposed →
          c.Taken (run calls) → ∃ a b : Identity, caller = some (.identity b) ∧
            st.admin = some (.identity a) ∧ next.admin = some (.identity b) ∧
            (history ns calls).getLast? = some (.proposal a b)) := by
  obtain ⟨st, known, led⟩ := reached calls ns
  refine ⟨st, known, offerIffLast led, fun c => ?_⟩
  obtain ⟨next, later, -⟩ := reached (calls ++ [c]) ns
  refine ⟨next, later, ?_, ?_⟩
  · intro a b before after other
    rcases nextMove c known later with ⟨same, -⟩ | ⟨here, kept, moved⟩
    · rw [same, before] at after
      cases after
      exact (other rfl).elim
    · obtain ⟨accepted, named⟩ := moveOfAdmin moved before after other
      exact ⟨here, ⟨next, kept⟩, accepted, (offerIffLast led a b).mp ⟨before, named⟩⟩
  · intro caller here accepts taken
    obtain ⟨result, kept⟩ := taken
    rcases nextMove c known later with ⟨-, nothing⟩ | ⟨-, -, moved⟩
    · simp only [added, kept, if_pos here] at nothing
      cases nothing
    · rw [accepts] at moved
      obtain ⟨a, b, rfl, held, named, succeeded⟩ := moveOfAcceptance moved
      exact ⟨a, b, rfl, held, succeeded, (offerIffLast led a b).mp ⟨held, named⟩⟩

def peterOffers : List Call :=
  [Call.onConsole [] (.establish (.setInitialAdmin (.string "peter"))),
    Call.onConsole [] (.proposal ⟨"peter"⟩ ⟨"miles"⟩)]

theorem peterOffered : (run peterOffers).stateAt "xyz" =
    .ok (.offered (some (.named "peter")) (some (.named "miles"))) := by
  have fresh : (run []).stateAt "xyz" = .ok .vacant := rfl
  have owned := runTaken (c := Call.onConsole [] (.establish (.setInitialAdmin (.string "peter"))))
    fresh rfl
  exact (runTaken (c := Call.onConsole [] (.proposal ⟨"peter"⟩ ⟨"miles"⟩)) owned.1 rfl).1

theorem milesSucceeds :
    (Call.onConsole [] (.acceptance ⟨"miles"⟩)).Taken (run peterOffers) ∧
      (history "xyz" peterOffers).getLast? = some (.proposal ⟨"peter"⟩ ⟨"miles"⟩) := by
  have accepted := runTaken (c := Call.onConsole [] (.acceptance ⟨"miles"⟩)) peterOffered rfl
  obtain ⟨st, known, -, step⟩ := successionByLastProposal peterOffers "xyz"
  obtain ⟨next, later, succession, -⟩ := step (Call.onConsole [] (.acceptance ⟨"miles"⟩))
  have before : st = _ := Except.ok.inj (known.symm.trans peterOffered)
  have after : next = _ := Except.ok.inj (later.symm.trans accepted.1)
  have held : st.admin = some (.named "peter") := by
    rw [before]
    rfl
  have succeeded : next.admin = some (.named "miles") := by
    rw [after]
    rfl
  obtain ⟨-, taken, -, last⟩ := succession ⟨"peter"⟩ ⟨"miles"⟩ held succeeded (by decide)
  exact ⟨taken, last⟩

end Course

end Handover

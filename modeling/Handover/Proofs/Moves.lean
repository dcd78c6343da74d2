import Handover.Proofs.Call
import Handover.Proofs.StoredRecord

/-!
The moves of a role. Every verdict of the guards and the validator on a filled state is one of six
moves, and the state after a move depends on the mutation alone: a mutation that was taken leaves a
trace from which the state can be read off.
-/
namespace Handover

namespace Validator

theorem validatedText {v : Validator} {raw : Json} {i : Identity}
    (accepted : (v.validate raw).1 = .ok i) : raw = .string i.name := by
  cases v with
  | canonical b => exact (Identity.canonicalAccepts.mp accepted).1
  | listed refused seen =>
    simp only [validate, checkListed] at accepted
    split at accepted <;> try contradiction
    split at accepted <;> try contradiction
    split at accepted <;> try contradiction
    cases raw with
    | string s => cases accepted; rfl
    | _ => cases accepted

end Validator

namespace State

theorem requireAdminOk {s : State} {caller admin : Option Party}
    (allowed : s.requireAdmin caller = .ok admin) :
    s.admin ≠ none ∧ s.admin = caller ∧ admin = s.admin := by
  unfold requireAdmin at allowed
  split at allowed <;> try contradiction
  rename_i held
  cases allowed
  rw [not_or, Decidable.not_not] at held
  exact ⟨held.1, held.2, rfl⟩

theorem adminOfFilled {s : State} (filled : s.Filled) (held : s.admin ≠ none) :
    ∃ a : Identity, s.admin = some (.identity a) := by
  cases filled with
  | vacant => exact (held rfl).elim
  | owned a => exact ⟨a, rfl⟩
  | offered a p => exact ⟨a, rfl⟩
  | abolished => exact (held rfl).elim

theorem placedOfFilled {s : State} {p : Party} (filled : s.Filled)
    (placed : s.admin = some p ∨ s.proposed = some p) : ∃ i : Identity, p = .identity i := by
  rcases placed with held | named
  · obtain ⟨a, own⟩ := adminOfFilled filled (by simp [held])
    exact ⟨a, Option.some.inj (held.symm.trans own)⟩
  · cases filled with
    | offered a i => exact ⟨i, (Option.some.inj named).symm⟩
    | _ => cases named

theorem phases {s : State} (filled : s.Filled) :
    s = .vacant ∨ s.admin ≠ none ∨ s = .abolished := by
  cases filled with
  | vacant => exact Or.inl rfl
  | owned a => exact Or.inr (Or.inl (by simp [State.admin]))
  | offered a p => exact Or.inr (Or.inl (by simp [State.admin]))
  | abolished => exact Or.inr (Or.inr rfl)

end State

inductive Moves : State → Mutation → State → Prop
  | begin (admin : Identity) :
    Moves .vacant (.establish (.setInitialAdmin (.string admin.name))) (.owned (some (.identity admin)))
  | forgo : Moves .vacant (.establish .abolishAdminRole) .abolished
  | propose {s : State} (admin proposed : Identity) (held : s.admin = some (.identity admin)) :
    Moves s (.update (some (.identity admin)) (.proposeNewAdmin (.string proposed.name)))
      (.offered (some (.identity admin)) (some (.identity proposed)))
  | clear {s : State} (admin : Identity) (held : s.admin = some (.identity admin)) :
    Moves s (.update (some (.identity admin)) .clearProposed) (.owned (some (.identity admin)))
  | accept (admin successor : Identity) :
    Moves (.offered (some (.identity admin)) (some (.identity successor)))
      (.update (some (.identity successor)) .acceptProposed) (.owned (some (.identity successor)))
  | abolish {s : State} (admin : Identity) (held : s.admin = some (.identity admin)) :
    Moves s (.update (some (.identity admin)) .abolishAdminRole) .abolished

theorem validatedPlan {v : Validator} {raw : Json} {next : Identity → State} {last : State}
    (kept : ((Plan.validate raw next).carryOut v).1 = .ok last) :
    ∃ i : Identity, raw = .string i.name ∧ last = next i := by
  simp only [Plan.carryOut] at kept
  cases accepted : (v.validate raw).1 with
  | error e => rw [accepted] at kept; cases kept
  | ok i =>
    rw [accepted] at kept
    cases kept
    exact ⟨i, Validator.validatedText accepted, rfl⟩

theorem adminPlan {v : Validator} {s last : State} {caller : Option Party}
    {plan : Option Party → Plan} (filled : s.Filled)
    (kept : (carryOut v ((s.requireAdmin caller).map plan)).1 = .ok last) :
    ∃ a : Identity, s.admin = some (.identity a) ∧ caller = some (.identity a) ∧
      ((plan (some (.identity a))).carryOut v).1 = .ok last := by
  cases allowed : s.requireAdmin caller with
  | error f => rw [allowed] at kept; cases kept
  | ok admin =>
    obtain ⟨held, same, answered⟩ := State.requireAdminOk allowed
    obtain ⟨a, identity⟩ := State.adminOfFilled filled held
    have named : admin = some (.identity a) := answered.trans identity
    rw [allowed, named] at kept
    exact ⟨a, identity, same.symm.trans identity, kept⟩

theorem startMoves {v : Validator} {s next : State} {r : Request} (filled : s.Filled)
    (inside : r.startsRole = true) (kept : (s.start v r).1 = .ok next) :
    Moves s (.establish r) next := by
  unfold State.start State.planStart at kept
  split at kept
  · cases kept
  split at kept
  · cases kept
  rename_i notAbolished unset
  rcases State.phases filled with rfl | held | abolished
  · cases r with
    | setInitialAdmin raw =>
      obtain ⟨i, rfl, rfl⟩ := validatedPlan kept
      exact .begin i
    | abolishAdminRole => cases kept; exact .forgo
    | _ => cases inside
  · exact (unset held).elim
  · exact (notAbolished abolished).elim

theorem changeMoves {v : Validator} {s next : State} {caller : Option Party} {r : Request}
    (filled : s.Filled) (kept : (s.change v caller r).1 = .ok next) :
    Moves s (.update caller r) next := by
  unfold State.change State.planChange at kept
  split at kept
  · cases kept
  cases r with
  | proposeNewAdmin raw =>
    obtain ⟨a, held, rfl, named⟩ := adminPlan filled kept
    obtain ⟨i, rfl, rfl⟩ := validatedPlan named
    exact .propose a i held
  | clearProposed =>
    obtain ⟨a, held, rfl, cleared⟩ := adminPlan filled kept
    cases cleared
    exact .clear a held
  | abolishAdminRole =>
    obtain ⟨a, held, rfl, gone⟩ := adminPlan filled kept
    cases gone
    exact .abolish a held
  | acceptProposed =>
    simp only at kept
    split at kept
    · cases kept
    rename_i named
    rw [not_or, Decidable.not_not] at named
    cases kept
    cases filled with
    | offered a p =>
      obtain rfl : some (.identity p) = caller := named.2
      exact .accept a p
    | _ => exact (named.1 rfl).elim
  | _ => cases kept

theorem judgeMoves {v : Validator} {s next : State} {m : Mutation} (filled : s.Filled)
    (inside : m.supported = true) (kept : (m.judge v s).1 = .ok next) : Moves s m next := by
  cases m with
  | establish r => exact startMoves filled inside kept
  | update caller r => exact changeMoves filled kept

theorem movesFilled {s next : State} {m : Mutation} (moved : Moves s m next) : next.Filled := by
  cases moved with
  | begin admin => exact .owned admin
  | forgo => exact .abolished
  | propose admin proposed => exact .offered admin proposed
  | clear admin => exact .owned admin
  | accept admin successor => exact .owned successor
  | abolish => exact .abolished

theorem movesSupported {s next : State} {m : Mutation} (moved : Moves s m next) :
    m.supported = true := by
  cases moved <;> rfl

namespace Mutation

def party? : Json → Option Party
  | .string s => some (.named s)
  | _ => none

def leaves : Mutation → State
  | .establish (.setInitialAdmin raw) => .owned (party? raw)
  | .update caller (.proposeNewAdmin raw) => .offered caller (party? raw)
  | .update caller .clearProposed => .owned caller
  | .update caller .acceptProposed => .owned caller
  | _ => .abolished

end Mutation

theorem movesLeaves {s next : State} {m : Mutation} (moved : Moves s m next) : next = m.leaves := by
  cases moved <;> rfl

theorem movesBegun {s next : State} {m : Mutation} (moved : Moves s m next) :
    next.isAbolished = next.view.admin.isNone := by
  cases moved <;> rfl

end Handover

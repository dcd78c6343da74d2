import Handover.Identity

/-!
The flat form in which a role is kept. The flag of abolition may be any value and is read as set or
not; the two invariants are part of the type, so every record satisfies them.
-/
namespace Handover

structure Record where
  abolished : Json
  admin : Option Party
  proposed : Option Party
  abolishedVacant : abolished.isSet = true → admin = none ∧ proposed = none
  proposedHasAdmin : proposed ≠ none → admin ≠ none
  deriving DecidableEq

namespace Record

def make (abolished : Json) (admin proposed : Option Party) : Except Flaw Record :=
  if h : abolished.isSet = true ∧ ¬ (admin = none ∧ proposed = none) then .error .abolishedHolder
  else if h' : proposed ≠ none ∧ admin = none then .error .loneProposal
  else .ok
    { abolished, admin, proposed
      abolishedVacant := fun hs => Decidable.byContradiction fun hv => h ⟨hs, hv⟩
      proposedHasAdmin := fun hp ha => h' ⟨hp, ha⟩ }

def vacant : Record where
  abolished := .bool false
  admin := none
  proposed := none
  abolishedVacant := fun _ => ⟨rfl, rfl⟩
  proposedHasAdmin := fun h => absurd rfl h

def members (r : Record) : List (String × Json) :=
  [("abolished", r.abolished), ("admin", .ofText? (r.admin.map Party.name)),
    ("proposed", .ofText? (r.proposed.map Party.name))]

def same (r s : Record) : Bool :=
  r.abolished.sameScalar s.abolished && r.admin == s.admin && r.proposed == s.proposed

end Record

end Handover

import Handover.Fault

/-!
Identities and parties. A role is held by an identity; a caller may also come as a text that nobody
has vouched for, and such a text is no identity even when it reads the same.
-/
namespace Handover

structure Identity where
  name : String
  deriving DecidableEq, Repr

namespace Identity

def ofJson : Json → Except Mismatch Identity
  | .string s => .ok ⟨s⟩
  | j => .error (.notText j.kindName)

instance : LT Identity := ⟨fun a b => a.name < b.name⟩

instance (a b : Identity) : Decidable (a < b) := inferInstanceAs (Decidable (a.name < b.name))

instance : LE Identity := ⟨fun a b => ¬ b.name < a.name⟩

instance (a b : Identity) : Decidable (a ≤ b) := inferInstanceAs (Decidable (¬ b.name < a.name))

end Identity

inductive Party
  | identity (i : Identity)
  | text (s : String)
  deriving DecidableEq, Repr

namespace Party

def name : Party → String
  | .identity i => i.name
  | .text s => s

def named (s : String) : Party := .identity ⟨s⟩

def ofJson : Json → Except Mismatch (Option Party)
  | .null => .ok none
  | .object [("text", .string s)] => .ok (some (.text s))
  | j => (Identity.ofJson j).map fun i => some (.identity i)

end Party

end Handover

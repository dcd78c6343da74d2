import Handover.Failure
import Handover.Identity
import Handover.Text.Case

/-!
Validators turn raw values into identities. The canonical one accepts only what is in canonical form
already and never rewrites it; the listed one keeps a list of what it refuses and of what it saw.
-/
namespace Handover

structure Bounds where
  least : Int
  most : Int
  leastPositive : 1 ≤ least
  ordered : least ≤ most
  deriving DecidableEq

def isNameChar (c : Char) : Bool :=
  ('a' ≤ c && c ≤ 'z') || ('0' ≤ c && c ≤ '9') || c == '_' || c == '.' || c == '-'

namespace Identity

def refusal? (b : Bounds) (s : String) : Option Refusal :=
  if s = "" then some .empty
  else if !Text.isTrimmed s then some .blankEnds
  else if !Text.isLower s then some .notLower
  else if (s.length : Int) < b.least then some (.short b.least)
  else if b.most < s.length then some (.long b.most)
  else if !s.toList.all isNameChar then some .characters
  else none

/-- The verdict on a raw value that can be written; one that is no text is refused by its display. -/
def canonical (b : Bounds) : Json → Except Fault Identity
  | .string s =>
    match refusal? b s with
    | some why => .error (.identity (.string s) why)
    | none => .ok ⟨s⟩
  | j => .error (.identity (.string (j.write Json.display)) .notText)

/-- The canonical identity of any raw value. What cannot be written can be neither accepted nor refused. -/
def canonical? (b : Bounds) (raw : Json) : Except Failure Identity :=
  if raw.isWritable then (canonical b raw).mapError Fault.failure else .error (.misfit .overlong)

theorem canonicalOk {b : Bounds} {raw : Json} {i : Identity} :
    canonical b raw = .ok i ↔ raw = .string i.name ∧ refusal? b i.name = none := by
  constructor
  · intro accepted
    cases raw with
    | string s =>
      simp only [canonical] at accepted
      split at accepted <;> cases accepted
      exact ⟨rfl, ‹_›⟩
    | _ => cases accepted
  · rintro ⟨rfl, passed⟩
    simp only [canonical, passed]

theorem canonicalAccepts {b : Bounds} {raw : Json} {i : Identity} :
    canonical? b raw = .ok i ↔ raw = .string i.name ∧ refusal? b i.name = none := by
  unfold canonical?
  rw [← canonicalOk]
  by_cases writable : raw.isWritable = true
  · rw [if_pos writable, mapErrorOk]
  · -- what cannot be written is no text, and nothing but a text is accepted
    rw [if_neg writable, canonicalOk]
    constructor
    · rintro ⟨⟩
    · rintro ⟨rfl, -⟩
      exact absurd rfl writable

end Identity

inductive Validator
  | canonical (bounds : Bounds)
  | listed (refused seen : List Json)
  deriving DecidableEq

namespace Validator

def fresh : Validator := .listed [] []

def requireScalar : Json → Except Mismatch Unit
  | .array items => .error (.notScalar (Json.array items).kindName)
  | .object members => .error (.notScalar (Json.object members).kindName)
  | _ => .ok ()

def checkListed (refused : List Json) (raw : Json) : Except Failure Identity :=
  if !raw.isSet then .error (.fault (.identity raw .empty))
  else
    match requireScalar raw with
    | .error m => .error (.mismatch m)
    | .ok () =>
      if refused.any raw.sameScalar then .error (Fault.identity raw .listed).failure
      else (Identity.ofJson raw).mapError .mismatch

def validate (v : Validator) (raw : Json) : Except Failure Identity × Validator :=
  match v with
  | .canonical b => (Identity.canonical? b raw, v)
  | .listed refused seen => (checkListed refused raw, .listed refused (seen ++ [raw]))

def refuse (v : Validator) (raw : Json) : Except Mismatch Validator :=
  match v with
  | .canonical _ => .ok v
  | .listed refused seen => (requireScalar raw).map fun _ => .listed (raw :: refused) seen

def seen : Validator → List Json
  | .canonical _ => []
  | .listed _ seen => seen

end Validator

end Handover

import Handover.Fault
import Handover.Wire.Issue

/-!
Everything an operation can fail with: a fault of the role, a value of the wrong kind, a form that
does not read, a setting that is not allowed, or a message of the host's own.
-/
namespace Handover

inductive Misfit
  | noNamespace
  | leastNotPositive (least : Int)
  | mostBelowLeast (most least : Int)
  | unknownLevel (level : String)
  | overlong
  deriving DecidableEq, Repr

namespace Misfit

def overlongText : String :=
  "Exceeds the limit (4300 digits) for integer string conversion; " ++
    "use sys.set_int_max_str_digits() to increase the limit"

/-- A bound of too many digits spoils the message that tells it. -/
def message : Misfit → String
  | .noNamespace => "namespace must be a non-empty string"
  | .leastNotPositive least =>
    if Text.isSpellable least then "identity_min_length must be positive, got " ++ toString least
    else overlongText
  | .mostBelowLeast most least =>
    if Text.isSpellable most && Text.isSpellable least then
      "identity_max_length (" ++ toString most ++ ") must be at least identity_min_length (" ++
        toString least ++ ")"
    else overlongText
  | .unknownLevel level => "unknown log_level " ++ Text.quoted level
  | .overlong => overlongText

end Misfit

inductive Failure
  | fault (f : Fault)
  | mismatch (m : Mismatch)
  | issues (rows : List Wire.Issue)
  | misfit (m : Misfit)
  | raised (message : String)
  deriving DecidableEq

def Fault.failure (f : Fault) : Failure :=
  if f.isWritable then .fault f else .misfit .overlong

theorem Fault.failureOwn {f g : Fault} (same : f.failure = .fault g) : f = g := by
  unfold failure at same
  split at same <;> cases same
  rfl

theorem mapErrorOk {ε δ α : Type} {f : ε → δ} {x : Except ε α} {a : α} :
    x.mapError f = .ok a ↔ x = .ok a := by
  cases x with
  | error e => exact ⟨nofun, nofun⟩
  | ok b =>
    change Except.ok b = .ok a ↔ _
    simp

theorem mapErrorError {ε δ α : Type} {f : ε → δ} {x : Except ε α} {d : δ} :
    x.mapError f = .error d ↔ ∃ e, x = .error e ∧ d = f e := by
  cases x with
  | ok b => exact ⟨nofun, nofun⟩
  | error e =>
    change Except.error (f e) = .error d ↔ _
    simp [eq_comm]

end Handover

import Handover.Failure
import Handover.Validator
import Handover.Text.Integer

/-!
Settings of a host: checked when they are built, and read from an environment with defaults for what
is missing or unusable there.
-/
namespace Handover

def levelNumbers : List (String × Nat) :=
  [("CRITICAL", 50), ("FATAL", 50), ("ERROR", 40), ("WARN", 30), ("WARNING", 30), ("INFO", 20),
    ("DEBUG", 10), ("NOTSET", 0)]

def levelNumber? (name : String) : Option Nat := Table.get? name levelNumbers

structure Threshold where
  name : String
  number : Nat
  deriving DecidableEq, Repr

def Threshold.ofName? (name : String) : Option Threshold :=
  (levelNumber? (Text.upper name)).map (⟨name, ·⟩)

structure Draft where
  ns : String
  least : Int
  most : Int
  environment : String
  level : String
  deriving DecidableEq, Repr

def Draft.standard : Draft := ⟨"admin", 3, 64, "production", "INFO"⟩

structure Settings where
  ns : String
  bounds : Bounds
  environment : String
  threshold : Threshold
  deriving DecidableEq

namespace Settings

def ofDraft (d : Draft) : Except Misfit Settings :=
  if d.ns = "" then .error .noNamespace
  else if hl : d.least < 1 then .error (.leastNotPositive d.least)
  else if hm : d.most < d.least then .error (.mostBelowLeast d.most d.least)
  else
    match Threshold.ofName? d.level with
    | none => .error (.unknownLevel d.level)
    | some t => .ok ⟨d.ns, ⟨d.least, d.most, by omega, by omega⟩, d.environment, t⟩

def standard : Settings :=
  ⟨"admin", ⟨3, 64, by decide, by decide⟩, "production", ⟨"INFO", 20⟩⟩

def trial : Settings := { standard with ns := "test_admin", environment := "development" }

def isProduction (s : Settings) : Bool := s.environment == "production"

abbrev Environment := List (String × String)

def textOf (env : Environment) (name default : String) : String :=
  match Table.get? name env with
  | none => default
  | some value => if Text.trim value = "" then default else Text.trim value

def integerOf (env : Environment) (name : String) (default : Int) : Int :=
  ((Table.get? name env).bind Text.integer?).getD default

def levelOf (env : Environment) (name default : String) : String :=
  let level := Text.upper (textOf env name default)
  if (levelNumber? level).isSome then level else default

def draftOf (env : Environment) : Draft where
  ns := textOf env "SECURE_ADMIN_NAMESPACE" Draft.standard.ns
  least := integerOf env "SECURE_ADMIN_IDENTITY_MIN_LENGTH" Draft.standard.least
  most := integerOf env "SECURE_ADMIN_IDENTITY_MAX_LENGTH" Draft.standard.most
  environment := textOf env "SECURE_ADMIN_ENV" Draft.standard.environment
  level := levelOf env "SECURE_ADMIN_LOG_LEVEL" Draft.standard.level

def ofEnvironment (env : Environment) : Except Misfit Settings := ofDraft (draftOf env)

end Settings

end Handover

import Handover.Json.Basic

/-!
Requests. Two families overlap in abolition: those that start a role and those that change it. Raw
identities travel unchecked, and any other value can be handed in as a request and is refused.
-/
namespace Handover

inductive Request
  | setInitialAdmin (raw : Json)
  | proposeNewAdmin (raw : Json)
  | clearProposed
  | acceptProposed
  | abolishAdminRole
  | other (value : Json)
  deriving DecidableEq

namespace Request

def kind : Request → String
  | .setInitialAdmin _ => "SetInitialAdmin"
  | .proposeNewAdmin _ => "ProposeNewAdmin"
  | .clearProposed => "ClearProposed"
  | .acceptProposed => "AcceptProposed"
  | .abolishAdminRole => "AbolishAdminRole"
  | .other value => value.kindName

def startsRole : Request → Bool
  | .setInitialAdmin _ | .abolishAdminRole => true
  | _ => false

def changesRole : Request → Bool
  | .proposeNewAdmin _ | .clearProposed | .acceptProposed | .abolishAdminRole => true
  | _ => false

def payload? : Request → Option Json
  | .setInitialAdmin raw | .proposeNewAdmin raw => some raw
  | _ => none

end Request

end Handover

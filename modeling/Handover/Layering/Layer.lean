import Handover.Layering.ModuleName

/-!
The layers of the package and what each may import. A module belongs to a layer by its second
component; modules of other names belong to none and are nobody's concern.
-/
namespace Handover.Layering

inductive Layer
  | config
  | domain
  | application
  | infrastructure
  | api
  deriving DecidableEq, Repr

def packageName : String := "secure_admin"

namespace Layer

def all : List Layer := [config, domain, application, infrastructure, api]

def name : Layer → String
  | config => "config"
  | domain => "domain"
  | application => "application"
  | infrastructure => "infrastructure"
  | api => "api"

def allowed : Layer → List Layer
  | config => []
  | domain => []
  | application => [domain]
  | infrastructure => [domain, application, config]
  | api => [domain, application]

def breaches (own target : Layer) : Bool := target != own && !own.allowed.contains target

def ofName? (s : String) : Option Layer := all.find? fun l => l.name == s

def ofComponents? : List String → Option Layer
  | package :: second :: _ => if package = packageName then ofName? second else none
  | _ => none

def ofModule? (name : String) : Option Layer := ofComponents? (components name)

theorem ofNameOwn (l : Layer) : ofName? l.name = some l := by cases l <;> decide

end Layer

end Handover.Layering

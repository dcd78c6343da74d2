import Handover.Json.Printer
import Handover.Json.Reader
import Handover.Role.Request
import Handover.Wire.Issue

/-!
Messages that name one of several variants by a member. A variant without content may also be
written as its name alone. A message is read by the table of its variants.
-/
namespace Handover.Wire

inductive Content (τ : Type)
  | unit (value : τ)
  | text (field form : String) (build : String → τ)

structure Variant (τ : Type) where
  name : String
  content : Content τ

structure Envelope (τ : Type) where
  form : String
  variants : List (Variant τ)

variable {τ : Type}

def requiredText (name : String) (ms : List (String × Json)) : Checked String :=
  match Table.get? name ms with
  | none => .error [⟨[name], .missing⟩]
  | some j => Checked.under name (readText j)

def Content.read (o : Origin) : Content τ → Json → Checked τ
  | .unit value, .object ms => Checked.plus (.ok value) (unknownMembers [] ms)
  | .unit _, _ => .fail (o.notObject "UnitBody")
  | .text field _ build, .object ms =>
    Checked.plus ((requiredText field ms).map build) (unknownMembers [field] ms)
  | .text _ form _, _ => .fail (o.notObject form)

def Variant.read (o : Origin) (v : Variant τ) (ms : List (String × Json)) : Checked (Option τ) :=
  match Table.get? v.name ms with
  | none | some .null => .ok none
  | some j => Checked.under v.name ((v.content.read o j).map some)

def readVariants (o : Origin) (ms : List (String × Json)) :
    List (Variant τ) → Checked (List (Option τ))
  | [] => .ok []
  | v :: rest => .ap ((v.read o ms).map List.cons) (readVariants o ms rest)

namespace Envelope

def names (e : Envelope τ) : List String := e.variants.map Variant.name

def expand : Json → Json
  | .string s => .object [(s, .object [])]
  | j => j

/-- Exactly one variant has to be set; this is looked at only when all else is in order. -/
def single (e : Envelope τ) (found : List (Option τ)) : Checked τ :=
  match found.filterMap id with
  | [x] => .ok x
  | set => .fail (.notOne e.names set.length)

def ofMembers (e : Envelope τ) (o : Origin) (ms : List (String × Json)) : Checked τ :=
  (Checked.plus (readVariants o ms e.variants) (unknownMembers e.names ms)).bind e.single

def ofJson (e : Envelope τ) (o : Origin) (j : Json) : Checked τ :=
  match expand j with
  | .object ms => e.ofMembers o ms
  | _ => .fail (o.notObject e.form)

def ofBytes (e : Envelope τ) (b : ByteArray) : Checked τ :=
  match Json.readBytes? .standard b with
  | some j => e.ofJson .text j
  | none => .fail .notJson

end Envelope

inductive InitMessage
  | setInitialAdmin (admin : String)
  | abolishAdminRole
  deriving DecidableEq, Repr

namespace InitMessage

def envelope : Envelope InitMessage where
  form := "AdminInitMessage"
  variants :=
    [⟨"set_initial_admin", .text "admin" "SetInitialAdminBody" .setInitialAdmin⟩,
      ⟨"abolish_admin_role", .unit .abolishAdminRole⟩]

def toRequest : InitMessage → Request
  | .setInitialAdmin admin => .setInitialAdmin (.string admin)
  | .abolishAdminRole => .abolishAdminRole

def toJson (m : InitMessage) : Json :=
  .object
    [("set_initial_admin",
        match m with
        | .setInitialAdmin admin => .object [("admin", .string admin)]
        | _ => .null),
      ("abolish_admin_role", if m = .abolishAdminRole then .object [] else .null)]

def text (m : InitMessage) : String := m.toJson.write Json.compact

end InitMessage

inductive UpdateMessage
  | proposeNewAdmin (proposed : String)
  | clearProposed
  | acceptProposed
  | abolishAdminRole
  deriving DecidableEq, Repr

namespace UpdateMessage

def envelope : Envelope UpdateMessage where
  form := "AdminUpdateMessage"
  variants :=
    [⟨"propose_new_admin", .text "proposed" "ProposeNewAdminBody" .proposeNewAdmin⟩,
      ⟨"clear_proposed", .unit .clearProposed⟩,
      ⟨"accept_proposed", .unit .acceptProposed⟩,
      ⟨"abolish_admin_role", .unit .abolishAdminRole⟩]

def toRequest : UpdateMessage → Request
  | .proposeNewAdmin proposed => .proposeNewAdmin (.string proposed)
  | .clearProposed => .clearProposed
  | .acceptProposed => .acceptProposed
  | .abolishAdminRole => .abolishAdminRole

def toJson (m : UpdateMessage) : Json :=
  let mark (b : Bool) : Json := if b then .object [] else .null
  .object
    [("propose_new_admin",
        match m with
        | .proposeNewAdmin proposed => .object [("proposed", .string proposed)]
        | _ => .null),
      ("clear_proposed", mark (m = .clearProposed)),
      ("accept_proposed", mark (m = .acceptProposed)),
      ("abolish_admin_role", mark (m = .abolishAdminRole))]

def text (m : UpdateMessage) : String := m.toJson.write Json.compact

end UpdateMessage

end Handover.Wire

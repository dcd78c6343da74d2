import Handover.Json.Printer

/-!
What can go wrong with the role itself, by cause. Each fault has a stable code for clients and one
message; nothing else in the library writes these texts.
-/
namespace Handover

inductive Refusal
  | notText
  | empty
  | blankEnds
  | notLower
  | short (least : Int)
  | long (most : Int)
  | characters
  | listed
  | other (reason : String)
  deriving DecidableEq, Repr

def Refusal.reason : Refusal → String
  | .notText => "identity must be a string"
  | .empty => "identity is empty"
  | .blankEnds => "surrounding whitespace"
  | .notLower => "identity not normalized"
  | .short least => "shorter than " ++ toString least ++ " characters"
  | .long most => "longer than " ++ toString most ++ " characters"
  | .characters => "invalid characters"
  | .listed => "rejected by stub"
  | .other reason => reason

def Refusal.isWritable : Refusal → Bool
  | .short n | .long n => Text.isSpellable n
  | _ => true

inductive Trouble
  | corrupt (issues : Nat)
  | unreadable
  | unwritable
  | other (text : String)
  deriving DecidableEq, Repr

def Trouble.text : Trouble → String
  | .corrupt _ => "stored admin record is corrupt"
  | .unreadable => "simulated read failure"
  | .unwritable => "simulated write failure"
  | .other text => text

inductive Flaw
  | abolishedHolder
  | loneProposal
  | other (text : String)
  deriving DecidableEq, Repr

def Flaw.text : Flaw → String
  | .abolishedHolder => "Abolished admin record must not name an admin or a proposal"
  | .loneProposal => "Admin record cannot hold a proposal without an admin"
  | .other text => text

inductive Fault
  | general (text : String)
  | notAdmin
  | notProposed
  | alreadySet
  | abolished
  | unsupported (operation kind : String)
  | identity (raw : Json) (why : Refusal)
  | storage (ns : String) (trouble : Trouble)
  | record (flaw : Flaw)
  deriving DecidableEq

namespace Fault

def code : Fault → String
  | .general _ => "secure_admin_error"
  | .notAdmin => "not_admin"
  | .notProposed => "not_proposed_admin"
  | .alreadySet => "already_initialized"
  | .abolished => "admin_role_abolished"
  | .unsupported .. => "unsupported_request"
  | .identity .. => "invalid_identity"
  | .storage .. => "storage_failure"
  | .record _ => "invalid_record"

def message : Fault → String
  | .general text => text
  | .notAdmin => "Caller is not admin"
  | .notProposed => "Caller is not the proposed admin"
  | .alreadySet => "Admin state was already initialized"
  | .abolished => "The admin role is abolished. No further updates possible."
  | .unsupported operation kind => "Unsupported request for " ++ operation ++ ": " ++ kind
  | .identity raw why => "Invalid identity " ++ raw.write Json.display ++ ": " ++ why.reason
  | .storage ns trouble => "Admin store failure for " ++ Text.quoted ns ++ ": " ++ trouble.text
  | .record flaw => flaw.text

def report (f : Fault) : List (String × Json) :=
  let head := [("error", Json.string f.code), ("message", Json.string f.message)]
  match f with
  | .identity raw why => head ++ [("raw", raw), ("reason", .string why.reason)]
  | _ => head

def isStorage : Fault → Bool
  | .storage .. => true
  | _ => false

def isWritable : Fault → Bool
  | .identity raw why => raw.isWritable && why.isWritable
  | _ => true

end Fault

inductive Mismatch
  | notText (kind : String)
  | notScalar (kind : String)
  | notJoinable (kind : String)
  | givenTwice (call name : String)
  deriving DecidableEq, Repr

def Mismatch.message : Mismatch → String
  | .notText kind => "Identity value must be a string, got " ++ kind
  | .notScalar kind => "unhashable type: " ++ Text.quoted kind
  | .notJoinable kind => "can only concatenate str (not \"" ++ kind ++ "\") to str"
  | .givenTwice call name => call ++ "() got multiple values for argument " ++ Text.quoted name

end Handover

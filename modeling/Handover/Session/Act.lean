import Handover.Service
import Handover.Wire.Message

/-!
What a host can do in a session, step by step. Stores, validators and services are called by name;
transactions and correlation scopes enclose further steps.
-/
namespace Handover.Session

inductive Submission
  | direct (r : Request)
  | initMessage (j : Json)
  | updateMessage (j : Json)

def Submission.request : Submission → Except Failure Request
  | .direct r => .ok r
  | .initMessage j =>
    ((Wire.InitMessage.envelope.ofJson .value j).mapError .issues).map Wire.InitMessage.toRequest
  | .updateMessage j =>
    ((Wire.UpdateMessage.envelope.ofJson .value j).mapError .issues).map
      Wire.UpdateMessage.toRequest

def readParty (j : Json) : Except Failure (Option Party) := (Party.ofJson j).mapError .mismatch

structure RawRecord where
  abolished : Json
  admin : Json
  proposed : Json

def RawRecord.record (r : RawRecord) : Except Failure Record := do
  let admin ← readParty r.admin
  let proposed ← readParty r.proposed
  (Record.make r.abolished admin proposed).mapError fun flaw => .fault (.record flaw)

inductive StoreKind
  | bytes
  | plain

inductive ValidatorKind
  | canonical (d : Draft)
  | listed

inductive Act
  | makeStore (name : String) (kind : StoreKind)
  | makeValidator (name : String) (kind : ValidatorKind)
  | refuse (validator : String) (raw : Json)
  | validate (validator : String) (raw : Json)
  | seen (validator : String)
  | makeService (name ns store validator : String)
  | bootstrap (name : String) (draft : Option Draft) (store validator : Option String)
  | sharedStore (name : String)
  | shareStore (store : Option String)
  | environment (vars : Settings.Environment)
  | establish (service : String) (r : Submission)
  | update (service : String) (sender : Json) (r : Submission)
  | query (service : String)
  | isAdmin (service : String) (who : Json)
  | isProposed (service : String) (who : Json)
  | assertAdmin (service : String) (who : Json)
  | assertProposed (service : String) (who : Json)
  | get (store ns : String)
  | set (store ns : String) (r : RawRecord)
  | seed (store ns : String) (r : RawRecord)
  | raw (store ns : String)
  | plant (store ns : String) (b : ByteArray)
  | namespaces (store : String)
  | setFailures (store : String) (get set : Bool)
  | clear (store : String)
  | correlation
  | configure (draft : Option Draft)
  | bindFields (fields : Audit.Fields)
  | log (level : Audit.Level) (event : String) (fields : Audit.Fields)
  | logRequest (service ns component operation : String) (r : Submission) (sender : Json)
      (event : String)

structure Ending where
  propagates : Bool
  raises : Option String

inductive Step
  | act (a : Act)
  | transaction (store ns : String) (ending : Ending) (steps : List Step)
  | scope (id : Option String) (ending : Ending) (steps : List Step)

inductive Answer
  | nothing
  | text (s : String)
  | flag (b : Bool)
  | values (js : List Json)
  | names (ss : List String)
  | view (v : View)
  | event (e : Event)
  | survey (s : Survey)
  | record (r : Option Record)
  | bytes (b : Option ByteArray)
  | settings (s : Settings)
  | shared (store : Store) (sameAs : List String)

structure Report where
  answer : Except Failure Answer
  lines : List Audit.Line
  stores : List (String × Store)

inductive Outcome
  | act (r : Report)
  | block (r : Report) (active : Option String) (inner : List Outcome)

end Handover.Session

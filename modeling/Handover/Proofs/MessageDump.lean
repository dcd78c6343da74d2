import Handover.Proofs.MessageLanguage
import Handover.Proofs.StoredRecord

/-!
Messages dumped and read again. A dump names every variant and holds null for all but one, so it is no
form that a sender would choose; yet it spells the message that was dumped, whatever text its body holds.
-/
namespace Handover.Wire

variable {τ : Type}

theorem holdsFits {c : Content τ} {j : Json} {x : τ} (holds : c.Holds j x) (lim : Json.Limits)
    (depth : Nat) : Json.Fits lim (depth + 1) j := by
  cases holds <;> simp [Json.Fits, Json.MembersFit]

namespace Envelope

variable {e : Envelope τ} {name : String} {body : Json} {x : τ}

def dump (e : Envelope τ) (name : String) (body : Json) : Json :=
  .object (e.names.map fun n => (n, if n = name then body else .null))

theorem dumpSet {names : List String} (unique : names.Nodup) (among : name ∈ names)
    (solid : body ≠ .null) :
    setMembers (names.map fun n => (n, if n = name then body else .null)) = [(name, body)] := by
  have kept : ((fun m : String × Json => decide (m.2 ≠ .null)) ∘
      fun n => (n, if n = name then body else .null)) = fun n => decide (n = name) := by
    funext n
    by_cases same : n = name <;> simp [same, solid]
  rw [setMembers, List.filter_map, kept, List.filter_eq, List.count_eq_one_of_mem unique among]
  simp

theorem dumpSpells (names : e.names.Nodup) (means : e.Body name body x) :
    Spells e.names e.Body (e.dump name body) x := by
  have solid : body ≠ .null := by
    obtain ⟨v, -, -, holds⟩ := means
    exact holdsSolid holds
  exact .whole (by simp) (dumpSet names (bodyKnown means) solid) means

theorem dumpMembersFit {lim : Json.Limits} {depth : Nat} (fits : Json.Fits lim depth body)
    (names : List String) :
    Json.MembersFit lim depth (names.map fun n => (n, if n = name then body else .null)) := by
  induction names with
  | nil => trivial
  | cons n names ih =>
    refine ⟨?_, ih⟩
    split
    · exact fits
    · simp [Json.Fits]

theorem dumpFits (names : e.names.Nodup) (means : e.Body name body x) :
    Json.Fits .standard Json.Limits.standard.depth (e.dump name body) := by
  obtain ⟨v, -, -, holds⟩ := means
  have own : (e.names.map fun n => (n, if n = name then body else .null)).map Prod.fst = e.names := by
    simp [Function.comp_def]
  refine ⟨?_, dumpMembersFit (holdsFits holds .standard 198) e.names⟩
  rw [own]
  exact names

theorem dumpReads (names : e.names.Nodup) (means : e.Body name body x) :
    e.ofBytes ((e.dump name body).write Json.compact).toUTF8 = .ok x := by
  have read := Json.readWritten Json.compactReadable .standard _ (dumpFits names means)
  rw [ofBytes, Json.readBytesText, read]
  exact (jsonSpells names (Json.readDistinct read)).mpr (dumpSpells names means)

end Envelope

/-- What is said of the messages of a kind by their texts: a message that was read comes back from its
text as the same message, every request of the family that carries no more than a text has a message,
and no two requests have one text. -/
structure Survives (e : Envelope τ) (toRequest : τ → Request) (text : τ → String)
    (family : Request → Bool) : Prop where
  again : ∀ m, e.ofBytes (text m).toUTF8 = .ok m
  ofRead : ∀ b, (e.ofBytes b).bind (fun m => e.ofBytes (text m).toUTF8) = e.ofBytes b
  ofValue : ∀ o j, (e.ofJson o j).bind (fun m => e.ofBytes (text m).toUTF8) = e.ofJson o j
  sameRequest : ∀ m, (e.ofBytes (text m).toUTF8).map toRequest = .ok (toRequest m)
  sameText : ∀ m, (e.ofBytes (text m).toUTF8).map text = .ok (text m)
  arises : ∀ r, family r = true → (∀ raw, r.payload? = some raw → ∃ s, raw = .string s) →
    ∃ b m, e.ofBytes b = .ok m ∧ toRequest m = r
  apart : ∀ m m', toRequest m ≠ toRequest m' → text m ≠ text m'

theorem survives {e : Envelope τ} {toRequest : τ → Request} {text : τ → String}
    {family : Request → Bool} (again : ∀ m, e.ofBytes (text m).toUTF8 = .ok m)
    (messages : ∀ r, family r = true → (∀ raw, r.payload? = some raw → ∃ s, raw = .string s) →
      ∃ m, toRequest m = r) : Survives e toRequest text family where
  again := again
  ofRead b := by
    cases e.ofBytes b with
    | ok m => exact again m
    | error rows => rfl
  ofValue o j := by
    cases e.ofJson o j with
    | ok m => exact again m
    | error rows => rfl
  sameRequest m := by
    rw [again m]
    rfl
  sameText m := by
    rw [again m]
    rfl
  arises r inside plain := by
    obtain ⟨m, same⟩ := messages r inside plain
    exact ⟨(text m).toUTF8, m, again m, same⟩
  apart m m' other same := by
    have back := again m
    rw [same, again m'] at back
    cases back
    exact other rfl

namespace InitMessage

theorem dumped (m : InitMessage) :
    ∃ name body, m.toJson = envelope.dump name body ∧ envelope.Body name body m := by
  cases m with
  | setInitialAdmin admin => exact ⟨_, _, rfl, _, .head _, rfl, .text _ _ _ admin⟩
  | abolishAdminRole => exact ⟨_, _, rfl, _, .tail _ (.head _), rfl, .unit _⟩

theorem readsAgain (m : InitMessage) : envelope.ofBytes m.text.toUTF8 = .ok m := by
  obtain ⟨name, body, same, means⟩ := m.dumped
  rw [text, same]
  exact Envelope.dumpReads (by decide) means

theorem ofRequest {r : Request} (inside : r.startsRole = true)
    (plain : ∀ raw, r.payload? = some raw → ∃ s, raw = .string s) :
    ∃ m : InitMessage, m.toRequest = r := by
  cases r with
  | setInitialAdmin raw =>
    obtain ⟨admin, rfl⟩ := plain raw rfl
    exact ⟨.setInitialAdmin admin, rfl⟩
  | abolishAdminRole => exact ⟨.abolishAdminRole, rfl⟩
  | _ => cases inside

end InitMessage

namespace UpdateMessage

theorem dumped (m : UpdateMessage) :
    ∃ name body, m.toJson = envelope.dump name body ∧ envelope.Body name body m := by
  cases m with
  | proposeNewAdmin proposed => exact ⟨_, _, rfl, _, .head _, rfl, .text _ _ _ proposed⟩
  | clearProposed => exact ⟨_, _, rfl, _, .tail _ (.head _), rfl, .unit _⟩
  | acceptProposed => exact ⟨_, _, rfl, _, .tail _ (.tail _ (.head _)), rfl, .unit _⟩
  | abolishAdminRole => exact ⟨_, _, rfl, _, .tail _ (.tail _ (.tail _ (.head _))), rfl, .unit _⟩

theorem readsAgain (m : UpdateMessage) : envelope.ofBytes m.text.toUTF8 = .ok m := by
  obtain ⟨name, body, same, means⟩ := m.dumped
  rw [text, same]
  exact Envelope.dumpReads (by decide) means

theorem ofRequest {r : Request} (inside : r.changesRole = true)
    (plain : ∀ raw, r.payload? = some raw → ∃ s, raw = .string s) :
    ∃ m : UpdateMessage, m.toRequest = r := by
  cases r with
  | proposeNewAdmin raw =>
    obtain ⟨proposed, rfl⟩ := plain raw rfl
    exact ⟨.proposeNewAdmin proposed, rfl⟩
  | clearProposed => exact ⟨.clearProposed, rfl⟩
  | acceptProposed => exact ⟨.acceptProposed, rfl⟩
  | abolishAdminRole => exact ⟨.abolishAdminRole, rfl⟩
  | _ => cases inside

end UpdateMessage

theorem messagesSurvive :
    Survives InitMessage.envelope InitMessage.toRequest InitMessage.text Request.startsRole ∧
      Survives UpdateMessage.envelope UpdateMessage.toRequest UpdateMessage.text
        Request.changesRole :=
  ⟨survives InitMessage.readsAgain fun _ => InitMessage.ofRequest,
    survives UpdateMessage.readsAgain fun _ => UpdateMessage.ofRequest⟩

end Handover.Wire

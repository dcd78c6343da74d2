import Handover.Proofs.Refusal
import Handover.Proofs.Variants

/-!
The language of the messages. A message is a variant without content by its name, or an object of known
members of which exactly one is not null and is a body of its variant. A table of variants reads this
language and no more, and counts the variants only where every member is in order.
-/
namespace Handover.Wire

inductive Spells {α : Type} (names : List String) (Body : String → Json → α → Prop) :
    Json → α → Prop
  | short {name : String} {x : α} (means : Body name (.object []) x) :
    Spells names Body (.string name) x
  | whole {ms : List (String × Json)} {name : String} {body : Json} {x : α}
    (known : ∀ m ∈ ms, m.1 ∈ names) (only : setMembers ms = [(name, body)])
    (means : Body name body x) : Spells names Body (.object ms) x

inductive Counts {α : Type} (names : List String) (Body : String → Json → α → Prop) :
    Json → Nat → Prop
  | whole {ms : List (String × Json)} (known : ∀ m ∈ ms, m.1 ∈ names)
    (bodies : ∀ m ∈ setMembers ms, ∃ x, Body m.1 m.2 x) :
    Counts names Body (.object ms) (setMembers ms).length

variable {τ : Type} {ms : List (String × Json)}

namespace Envelope

variable {e : Envelope τ} {o : Origin} {found : List (Option τ)} {x : τ} {j : Json}

def Body (e : Envelope τ) (name : String) (j : Json) (x : τ) : Prop :=
  ∃ v ∈ e.variants, v.name = name ∧ v.content.Holds j x

/-- What a message means in a language of names and bodies: it is accepted as what it spells, and refused
for its number of variants only if all else is in order. -/
structure Means {α : Type} (e : Envelope τ) (f : τ → α) (names : List String)
    (Body : String → Json → α → Prop) (o : Origin) (j : Json) : Prop where
  accepts : ∀ x, (e.ofJson o j).map f = .ok x ↔ Spells names Body j x
  refuses : (¬ ∃ x, Spells names Body j x) → ∃ rows, e.ofJson o j = .error rows ∧ rows ≠ []
  counts : ∀ n, e.ofJson o j = .error [⟨[], .notOne names n⟩] ↔ Counts names Body j n ∧ n ≠ 1

theorem bodyKnown {name : String} {j : Json} (body : e.Body name j x) : name ∈ e.names := by
  obtain ⟨v, among, rfl, -⟩ := body
  exact List.mem_map.mpr ⟨v, among, rfl⟩

theorem bodyOwn (names : e.names.Nodup) {v : Variant τ} (among : v ∈ e.variants)
    (body : e.Body v.name j x) : v.content.Holds j x := by
  obtain ⟨u, inside, named, holds⟩ := body
  have same : u = v := List.inj_on_of_nodup_map names inside among named
  exact same ▸ holds

theorem bodiesFound (names : e.names.Nodup) (bodies : ∀ m ∈ setMembers ms, ∃ x, e.Body m.1 m.2 x) :
    ∃ found, Found ms e.variants found :=
  foundComplete fun v among j set => by
    obtain ⟨x, body⟩ := bodies (v.name, j) set
    exact ⟨x, bodyOwn names among body⟩

theorem singleOk : e.single found = .ok x ↔ found.filterMap id = [x] := by
  unfold single
  split
  · rename_i y only
    rw [only]
    simp
  · rename_i other
    exact ⟨fun read => (by cases read), fun only => (other x only).elim⟩

theorem singleOther (several : (found.filterMap id).length ≠ 1) :
    e.single found = .error [⟨[], .notOne e.names (found.filterMap id).length⟩] := by
  unfold single
  split
  · rename_i only
    rw [only] at several
    exact (several rfl).elim
  · rfl

section
variable (distinct : (Json.object ms).Distinct)
include distinct

theorem ofMembersFound (known : ∀ m ∈ ms, m.1 ∈ e.names) (source : Found ms e.variants found) :
    e.ofMembers o ms = e.single found := by
  rw [ofMembers, (variantsFound distinct).mpr source, unknownNone.mpr known]
  rfl

theorem ofMembersCases (e : Envelope τ) (o : Origin) :
    (∃ found, (∀ m ∈ ms, m.1 ∈ e.names) ∧ Found ms e.variants found ∧
      e.ofMembers o ms = e.single found) ∨
    ∃ rows, e.ofMembers o ms = .error rows ∧ rows ≠ [] ∧ ∀ r ∈ rows, r.path ≠ [] := by
  have blames := Checked.blamesPlus (variantsBlame o ms e.variants) (unknownInside e.names ms)
  cases read : Checked.plus (readVariants o ms e.variants) (unknownMembers e.names ms) with
  | error rows =>
    refine Or.inr ⟨rows, ?_, blames rows read⟩
    rw [ofMembers, read]
    rfl
  | ok found =>
    obtain ⟨all, none⟩ := Checked.plusOk.mp read
    have known := unknownNone.mp none
    have source := (variantsFound distinct).mp all
    exact Or.inl ⟨found, known, source, ofMembersFound distinct known source⟩

theorem membersRefuse {rows : List Issue} (failed : e.ofMembers o ms = .error rows) : rows ≠ [] := by
  rcases ofMembersCases distinct e o with ⟨found, -, -, read⟩ | ⟨lost, refused, some, -⟩
  · rw [read] at failed
    unfold single at failed
    split at failed <;> cases failed
    simp
  · cases refused.symm.trans failed
    exact some

variable (names : e.names.Nodup)
include names

theorem singleFound (known : ∀ m ∈ ms, m.1 ∈ e.names) (source : Found ms e.variants found) :
    e.single found = .ok x ↔ ∃ m, setMembers ms = [m] ∧ e.Body m.1 m.2 x := by
  have unique := (Json.distinctObject.mp distinct).1
  have count := foundCount unique names known source
  have value {y : τ} : some y ∈ found ↔ y ∈ found.filterMap id := by simp
  rw [singleOk]
  constructor
  · intro only
    obtain ⟨v, among, j, member, holds⟩ :=
      foundValue source (value.mpr (only ▸ List.mem_singleton_self x))
    obtain ⟨m, same⟩ := List.length_eq_one_iff.mp (count.symm.trans (congrArg List.length only))
    rw [same] at member
    cases List.mem_singleton.mp member
    exact ⟨_, same, v, among, rfl, holds⟩
  · rintro ⟨m, only, v, among, named, holds⟩
    obtain ⟨y, same⟩ := List.length_eq_one_iff.mp (count.trans (congrArg List.length only))
    have member : (v.name, m.2) ∈ setMembers ms := by
      rw [only, named]
      exact List.mem_singleton_self m
    obtain ⟨z, inside, means⟩ := foundHolds unique source among member
    have first := value.mp inside
    rw [same] at first
    rw [same, ← List.mem_singleton.mp first, holdsUnique means holds]

theorem membersSpell : e.ofMembers o ms = .ok x ↔ Spells e.names e.Body (.object ms) x := by
  constructor
  · intro accepted
    rcases ofMembersCases distinct e o with ⟨found, known, source, read⟩ | ⟨rows, failed, -⟩
    · obtain ⟨m, only, body⟩ := (singleFound distinct names known source).mp (read.symm.trans accepted)
      exact .whole known only body
    · cases failed.symm.trans accepted
  · intro spells
    cases spells with
    | whole known only means =>
      -- the only member that is set is a body, so every variant finds what it looks for
      obtain ⟨found, source⟩ := bodiesFound names fun m set => by
        rw [only] at set
        rw [List.mem_singleton.mp set]
        exact ⟨x, means⟩
      rw [ofMembersFound distinct known source]
      exact (singleFound distinct names known source).mpr ⟨_, only, means⟩

theorem membersCount (n : Nat) :
    e.ofMembers o ms = .error [⟨[], .notOne e.names n⟩] ↔
      Counts e.names e.Body (.object ms) n ∧ n ≠ 1 := by
  have unique := (Json.distinctObject.mp distinct).1
  constructor
  · intro refused
    rcases ofMembersCases distinct e o with ⟨found, known, source, read⟩ | ⟨rows, failed, -, inside⟩
    · have count := foundCount unique names known source
      rw [read] at refused
      by_cases one : (found.filterMap id).length = 1
      · obtain ⟨x, only⟩ := List.length_eq_one_iff.mp one
        cases (singleOk.mpr only).symm.trans refused
      · rw [singleOther one] at refused
        cases refused
        rw [count] at one ⊢
        refine ⟨.whole known fun m member => ?_, one⟩
        obtain ⟨v, among, named⟩ := List.mem_map.mp (known m (List.mem_filter.mp member).1)
        obtain ⟨x, -, holds⟩ := foundHolds (j := m.2) unique source among (named ▸ member)
        exact ⟨x, v, among, named, holds⟩
    · cases failed.symm.trans refused
      exact (inside _ (List.mem_singleton_self _) rfl).elim
  · rintro ⟨counts, several⟩
    cases counts with
    | whole known bodies =>
      obtain ⟨found, source⟩ := bodiesFound names bodies
      have count := foundCount unique names known source
      rw [ofMembersFound distinct known source, ← count]
      exact singleOther (count.symm ▸ several)

end

theorem shortDistinct (name : String) : (Json.object [(name, .object [])]).Distinct := by
  simp [Json.distinctObject]

theorem shortSet (name : String) : setMembers [(name, .object [])] = [(name, .object [])] := by
  simp [setMembers]

theorem jsonSpells (names : e.names.Nodup) (distinct : j.Distinct) :
    e.ofJson o j = .ok x ↔ Spells e.names e.Body j x := by
  cases j with
  | string name =>
    refine (membersSpell (shortDistinct name) names).trans ⟨fun spells => ?_, fun spells => ?_⟩
    · cases spells with
      | whole known only means =>
        rw [shortSet] at only
        cases only
        exact .short means
    · cases spells with
      | short means => exact .whole (by simpa using bodyKnown means) (shortSet name) means
  | object ms => exact membersSpell distinct names
  | _ => exact ⟨fun read => (by cases read), fun spells => (by cases spells)⟩

theorem jsonCounts (names : e.names.Nodup) (distinct : j.Distinct) (n : Nat) :
    e.ofJson o j = .error [⟨[], .notOne e.names n⟩] ↔ Counts e.names e.Body j n ∧ n ≠ 1 := by
  cases j with
  | string name =>
    refine (membersCount (shortDistinct name) names n).trans ⟨?_, fun counts => (by cases counts.1)⟩
    rintro ⟨counts, several⟩
    cases counts with
    | whole => rw [shortSet] at several; exact (several rfl).elim
  | object ms => exact membersCount distinct names n
  | _ =>
    refine ⟨fun read => ?_, fun counts => (by cases counts.1)⟩
    cases o <;> cases read

theorem jsonRefuses (distinct : j.Distinct) {rows : List Issue} (failed : e.ofJson o j = .error rows) :
    rows ≠ [] := by
  cases j with
  | string name => exact membersRefuse (shortDistinct name) failed
  | object ms => exact membersRefuse distinct failed
  | _ => cases failed; simp

theorem meansBodies {α : Type} {f : τ → α} {Body : String → Json → α → Prop}
    (names : e.names.Nodup) (agree : ∀ name j a, Body name j a ↔ ∃ x, e.Body name j x ∧ f x = a)
    (distinct : j.Distinct) : e.Means f e.names Body o j := by
  have accepted (x : τ) (read : e.ofJson o j = .ok x) : Spells e.names Body j (f x) := by
    cases (jsonSpells names distinct).mp read with
    | short means => exact .short ((agree _ _ _).mpr ⟨x, means, rfl⟩)
    | whole known only means => exact .whole known only ((agree _ _ _).mpr ⟨x, means, rfl⟩)
  refine ⟨fun a => ?_, fun other => ?_, fun n => ?_⟩
  · rw [Checked.mapOk]
    constructor
    · rintro ⟨x, read, rfl⟩
      exact accepted x read
    · intro spells
      cases spells with
      | short means =>
        obtain ⟨x, body, rfl⟩ := (agree _ _ _).mp means
        exact ⟨x, (jsonSpells names distinct).mpr (.short body), rfl⟩
      | whole known only means =>
        obtain ⟨x, body, rfl⟩ := (agree _ _ _).mp means
        exact ⟨x, (jsonSpells names distinct).mpr (.whole known only body), rfl⟩
  · cases read : e.ofJson o j with
    | ok x => exact (other ⟨f x, accepted x read⟩).elim
    | error rows => exact ⟨rows, rfl, jsonRefuses distinct read⟩
  · rw [jsonCounts names distinct]
    refine and_congr_left fun _ => ⟨fun counts => ?_, fun counts => ?_⟩
    · cases counts with
      | whole known bodies =>
        refine .whole known fun m member => ?_
        obtain ⟨x, body⟩ := bodies m member
        exact ⟨f x, (agree _ _ _).mpr ⟨x, body, rfl⟩⟩
    · cases counts with
      | whole known bodies =>
        refine .whole known fun m member => ?_
        obtain ⟨a, means⟩ := bodies m member
        obtain ⟨x, body, -⟩ := (agree _ _ _).mp means
        exact ⟨x, body⟩

end Envelope

namespace InitMessage

def kinds : List String := ["set_initial_admin", "abolish_admin_role"]

inductive Body : String → Json → Request → Prop
  | setInitialAdmin (admin : String) :
    Body "set_initial_admin" (.object [("admin", .string admin)]) (.setInitialAdmin (.string admin))
  | abolishAdminRole : Body "abolish_admin_role" (.object []) .abolishAdminRole

theorem bodies (name : String) (j : Json) (r : Request) :
    Body name j r ↔ ∃ m, envelope.Body name j m ∧ m.toRequest = r := by
  constructor
  · intro body
    cases body with
    | setInitialAdmin admin =>
      exact ⟨.setInitialAdmin admin, ⟨_, .head _, rfl, .text _ _ _ admin⟩, rfl⟩
    | abolishAdminRole => exact ⟨.abolishAdminRole, ⟨_, .tail _ (.head _), rfl, .unit _⟩, rfl⟩
  · rintro ⟨m, ⟨v, among, rfl, holds⟩, rfl⟩
    simp only [envelope, List.mem_cons, List.not_mem_nil, or_false] at among
    rcases among with rfl | rfl
    · cases holds; exact .setInitialAdmin _
    · cases holds; exact .abolishAdminRole

end InitMessage

namespace UpdateMessage

def kinds : List String :=
  ["propose_new_admin", "clear_proposed", "accept_proposed", "abolish_admin_role"]

inductive Body : String → Json → Request → Prop
  | proposeNewAdmin (proposed : String) :
    Body "propose_new_admin" (.object [("proposed", .string proposed)])
      (.proposeNewAdmin (.string proposed))
  | clearProposed : Body "clear_proposed" (.object []) .clearProposed
  | acceptProposed : Body "accept_proposed" (.object []) .acceptProposed
  | abolishAdminRole : Body "abolish_admin_role" (.object []) .abolishAdminRole

theorem bodies (name : String) (j : Json) (r : Request) :
    Body name j r ↔ ∃ m, envelope.Body name j m ∧ m.toRequest = r := by
  constructor
  · intro body
    cases body with
    | proposeNewAdmin proposed =>
      exact ⟨.proposeNewAdmin proposed, ⟨_, .head _, rfl, .text _ _ _ proposed⟩, rfl⟩
    | clearProposed => exact ⟨.clearProposed, ⟨_, .tail _ (.head _), rfl, .unit _⟩, rfl⟩
    | acceptProposed => exact ⟨.acceptProposed, ⟨_, .tail _ (.tail _ (.head _)), rfl, .unit _⟩, rfl⟩
    | abolishAdminRole =>
      exact ⟨.abolishAdminRole, ⟨_, .tail _ (.tail _ (.tail _ (.head _))), rfl, .unit _⟩, rfl⟩
  · rintro ⟨m, ⟨v, among, rfl, holds⟩, rfl⟩
    simp only [envelope, List.mem_cons, List.not_mem_nil, or_false] at among
    rcases among with rfl | rfl | rfl | rfl
    · cases holds; exact .proposeNewAdmin _
    · cases holds; exact .clearProposed
    · cases holds; exact .acceptProposed
    · cases holds; exact .abolishAdminRole

end UpdateMessage

theorem familyOfUpdate {j : Json} {r : Request}
    (spells : Spells UpdateMessage.kinds UpdateMessage.Body j r) : r.changesRole = true := by
  cases spells with
  | short means => cases means <;> rfl
  | whole known only means => cases means <;> rfl

theorem familyOfInit {j : Json} {r : Request}
    (spells : Spells InitMessage.kinds InitMessage.Body j r) : r.startsRole = true := by
  cases spells with
  | short means => cases means; rfl
  | whole known only means => cases means <;> rfl

theorem commonBody {name name' : String} {body body' : Json} {r r' : Request} (same : name = name')
    (update : UpdateMessage.Body name body r) (start : InitMessage.Body name' body' r') :
    r = .abolishAdminRole ∧ r' = .abolishAdminRole := by
  cases update with
  | abolishAdminRole =>
    cases start with
    | setInitialAdmin admin => exact absurd same (by decide)
    | abolishAdminRole => exact ⟨rfl, rfl⟩
  | _ => cases start <;> exact absurd same (by decide)

theorem commonMessage {j : Json} {r r' : Request}
    (update : Spells UpdateMessage.kinds UpdateMessage.Body j r)
    (start : Spells InitMessage.kinds InitMessage.Body j r') :
    r = .abolishAdminRole ∧ r' = .abolishAdminRole := by
  cases update with
  | short means =>
    cases start with
    | short means' => exact commonBody rfl means means'
  | whole known only means =>
    cases start with
    | whole known' only' means' =>
      cases only.symm.trans only'
      exact commonBody rfl means means'

/-- The two kinds of message are read as their languages, from values and from texts. What a message
spells is never refused as outside the family, and a value that is a message of both kinds gives the
role up. -/
theorem messageLanguages :
    (∀ (o : Origin) (j : Json), j.Distinct →
      UpdateMessage.envelope.Means UpdateMessage.toRequest UpdateMessage.kinds UpdateMessage.Body o j ∧
      InitMessage.envelope.Means InitMessage.toRequest InitMessage.kinds InitMessage.Body o j) ∧
    (∀ b : ByteArray,
      (∃ j, Json.readBytes? .standard b = some j ∧ j.Distinct ∧
        UpdateMessage.envelope.ofBytes b = UpdateMessage.envelope.ofJson .text j ∧
        InitMessage.envelope.ofBytes b = InitMessage.envelope.ofJson .text j) ∨
      UpdateMessage.envelope.ofBytes b = .error [⟨[], .notJson⟩] ∧
        InitMessage.envelope.ofBytes b = .error [⟨[], .notJson⟩]) ∧
    (∀ (j : Json) (r : Request) (c : Call),
      Spells UpdateMessage.kinds UpdateMessage.Body j r ∧ (∃ caller, c.asked = .update caller r) ∨
        Spells InitMessage.kinds InitMessage.Body j r ∧ c.asked = .establish r →
      ∀ s operation kind, c.answer s ≠ .error (.fault (.unsupported operation kind))) ∧
    ∀ (j : Json) (r r' : Request), Spells UpdateMessage.kinds UpdateMessage.Body j r →
      Spells InitMessage.kinds InitMessage.Body j r' →
      r = .abolishAdminRole ∧ r' = .abolishAdminRole := by
  refine ⟨fun o j distinct => ⟨?_, ?_⟩, fun b => ?_, ?_, fun j r r' => commonMessage⟩
  · exact Envelope.meansBodies (by decide) UpdateMessage.bodies distinct
  · exact Envelope.meansBodies (by decide) InitMessage.bodies distinct
  · unfold Envelope.ofBytes
    cases read : Json.readBytes? .standard b with
    | some j => exact Or.inl ⟨j, rfl, Json.readBytesDistinct read, rfl, rfl⟩
    | none => exact Or.inr ⟨rfl, rfl⟩
  · rintro j r c asked s operation kind
    refine Call.neverUnsupported ?_ s operation kind
    rcases asked with ⟨spells, caller, asked⟩ | ⟨spells, asked⟩
    · rw [asked]
      exact familyOfUpdate spells
    · rw [asked]
      exact familyOfInit spells

theorem nullBesideVariant :
    (UpdateMessage.envelope.ofJson .value
      (.object [("propose_new_admin", .null), ("clear_proposed", .object [])])).map
        UpdateMessage.toRequest = .ok .clearProposed ∧
    InitMessage.envelope.ofJson .value (.object
      [("set_initial_admin", .object [("admin", .string "peter")]),
        ("abolish_admin_role", .object [])]) =
      .error [⟨[], .notOne InitMessage.kinds 2⟩] := by
  constructor
  · have distinct : (Json.object [("propose_new_admin", .null),
        ("clear_proposed", .object [])]).Distinct := by
      simp [Json.Distinct, Json.MembersDistinct]
    refine ((messageLanguages.1 .value _ distinct).1.accepts _).mpr ?_
    exact .whole (by decide) (by simp [setMembers]) .clearProposed
  · have distinct : (Json.object [("set_initial_admin", .object [("admin", .string "peter")]),
        ("abolish_admin_role", .object [])]).Distinct := by
      simp [Json.Distinct, Json.MembersDistinct]
    refine ((messageLanguages.1 .value _ distinct).2.counts 2).mpr ⟨?_, by decide⟩
    refine .whole (by decide) fun m member => ?_
    rcases List.mem_cons.mp (List.mem_filter.mp member).1 with rfl | last
    · exact ⟨_, .setInitialAdmin "peter"⟩
    · rw [List.mem_singleton.mp last]
      exact ⟨_, .abolishAdminRole⟩

end Handover.Wire

import Handover.Proofs.Scene

/-!
Namespaces apart. From a program of operations and transactions, what does not work at one address can be
erased: operations elsewhere are dropped and transactions elsewhere are opened. What is told at the address
and what its namespace holds in the end are the same without them.
-/
namespace Handover.Session

open World

mutual

def Step.isCaught : Step → Bool
  | .act a => a.isOperation
  | .transaction _ _ ending steps => !ending.propagates && allCaught steps
  | .scope .. => false

def allCaught : List Step → Bool
  | [] => true
  | s :: rest => s.isCaught && allCaught rest

end

mutual

def only (w : World) (home : Address) : Step → List Step
  | .act a => if w.address? a = some home then [.act a] else []
  | .transaction name ns ending steps =>
    match w.storeAddress? name ns with
    | none => []
    | some a =>
      if a = home then [.transaction name ns ending (onlyAll w home steps)]
      else onlyAll w home steps
  | .scope id ending steps => [.scope id ending steps]

def onlyAll (w : World) (home : Address) : List Step → List Step
  | [] => []
  | s :: rest => only w home s ++ onlyAll w home rest

end

mutual

def told (w : World) (home : Address) : Step → Outcome → List (Except Failure Answer)
  | .act a, .act r => if w.address? a = some home then [r.answer] else []
  | .transaction name ns _ steps, .block r _ inner =>
    toldAll w home steps inner ++ if w.storeAddress? name ns = some home then [r.answer] else []
  | _, _ => []

def toldAll (w : World) (home : Address) : List Step → List Outcome → List (Except Failure Answer)
  | s :: rest, o :: outcomes => told w home s o ++ toldAll w home rest outcomes
  | _, _ => []

end

section
variable {w v : World} {home : Address} {name ns : String} {i : Nat} {before : Store} {ending : Ending}

theorem runAllLength (w : World) (steps : List Step) : (runAll false w steps).1.length = steps.length := by
  induction steps generalizing w with
  | nil => rfl
  | cons s rest ih => simp only [runAll, List.length_cons, ih]

theorem runAllAppend (w : World) (steps more : List Step) :
    (runAll false w (steps ++ more)).1 =
      (runAll false w steps).1 ++ (runAll false (runAll false w steps).2.2 more).1 ∧
    (runAll false w (steps ++ more)).2.2 = (runAll false (runAll false w steps).2.2 more).2.2 := by
  induction steps generalizing w with
  | nil => exact ⟨rfl, rfl⟩
  | cons s rest ih =>
    obtain ⟨outcomes, world⟩ := ih (run w s).2
    simp only [List.cons_append, runAll, outcomes, world]
    exact ⟨trivial, trivial⟩

theorem toldAllAppend (w : World) (home : Address) {steps : List Step} {outcomes : List Outcome}
    (more : List Step) (later : List Outcome) (even : outcomes.length = steps.length) :
    toldAll w home (steps ++ more) (outcomes ++ later) =
      toldAll w home steps outcomes ++ toldAll w home more later := by
  induction steps generalizing outcomes with
  | nil =>
    cases outcomes with
    | nil => simp [toldAll]
    | cons o rest => cases even
  | cons s rest ih =>
    cases outcomes with
    | nil => cases even
    | cons o others =>
      have even' : others.length = rest.length := Nat.succ.inj even
      simp only [List.cons_append, toldAll, ih even', List.append_assoc]

theorem toldBlock (w : World) (home : Address) (r : Report) (active : Option String) (steps : List Step)
    (inner : List Outcome) :
    told w home (.transaction name ns ending steps) (.block r active inner) =
      toldAll w home steps inner ++
        if w.storeAddress? name ns = some home then [r.answer] else [] := by
  rw [told]

theorem actRun (w : World) (a : Act) : ∃ r, r.answer = (w.perform a).1 ∧
    run w (.act a) = (.act r, { (w.perform a).2 with lines := [] }) := by
  rw [run]
  exact ⟨_, rfl, rfl⟩

theorem blockOutcome (ns : String) (steps : List Step) (found : w.store name = .ok (i, before))
    (caught : ending.propagates = false) :
    ∃ r, r.answer = blockAnswer (ending.raises.map .raised) ∧
      (run w (.transaction name ns ending steps)).1 =
        .block r none (runAll false (w.putStore i before.enter) steps).1 := by
  simp only [run, found, caught, Ending.failure?]
  exact ⟨_, rfl, rfl⟩

theorem blockWorld {steps : List Step} {u : World} {now : Store} (found : w.store name = .ok (i, before))
    (caught : ending.propagates = false) (ran : (runAll false (w.putStore i before.enter) steps).2.2 = u)
    (kept : u.stores[i]? = some now) :
    (run w (.transaction name ns ending steps)).2 =
      { (match ending.raises with
        | some _ => u.putStore i (now.rollback before ns)
        | none => u) with lines := [] } := by
  subst ran
  simp only [run, found, caught, Ending.failure?, kept]
  cases ending.raises <;> rfl

theorem blockSpares (ns : String) {steps : List Step} (found : w.store name = .ok (i, before))
    (caught : ending.propagates = false)
    (quiet : (runAll false (w.putStore i before.enter) steps).2.2.scene = w.scene) :
    (runAll false (w.putStore i before.enter) steps).2.2.Spares (some ⟨i, ns⟩)
      (run w (.transaction name ns ending steps)).2 ∧
    (run w (.transaction name ns ending steps)).2.cell? i ns =
      if ending.raises.isSome then w.cell? i ns
      else (runAll false (w.putStore i before.enter) steps).2.2.cell? i ns := by
  obtain ⟨now, kept, mode⟩ := mapAlike (congrArg Scene.modes quiet.symm) (storePlaced found)
  have back := Store.rollbackAssigned ns (congrArg Option.isSome mode.symm)
  have put := sparesPut kept back
  have own := (cellOwn kept (now.rollback before ns)).trans back.own
  rw [blockWorld found caught rfl kept]
  cases ending.raises with
  | none => exact ⟨⟨rfl, fun _ _ => rfl⟩, rfl⟩
  | some message =>
    refine ⟨⟨put.scene, put.others⟩, own.trans ?_⟩
    rw [cell?, storePlaced found]
    rfl

end

mutual

theorem runScene (w : World) : (s : Step) → s.isCaught = true → (run w s).2.scene = w.scene
  | .act a, caught => by
    obtain ⟨r, -, ran⟩ := actRun w a
    rw [ran]
    exact (performLocal caught w).spares.scene
  | .transaction name ns ending steps, caught => by
    simp only [Step.isCaught, Bool.and_eq_true, Bool.not_eq_true'] at caught
    cases found : w.store name with
    | error e =>
      simp only [run, found]
      rfl
    | ok named =>
      obtain ⟨i, before⟩ := named
      have entered := scenePut (storePlaced found) (Store.modeEnter before)
      have quiet := (runAllScene (w.putStore i before.enter) steps caught.2).trans entered
      exact (blockSpares ns found caught.1 quiet).1.scene.trans quiet
  | .scope id ending steps, caught => by cases caught

theorem runAllScene (w : World) :
    (steps : List Step) → allCaught steps = true → (runAll false w steps).2.2.scene = w.scene
  | [], _ => rfl
  | s :: rest, caught => by
    simp only [allCaught, Bool.and_eq_true] at caught
    have first := runScene w s caught.1
    have later := runAllScene (run w s).2 rest caught.2
    rw [runAll]
    exact later.trans first

end

/-- A step in one world, and what is left of it in another: what is told at the address is the same, and
afterwards the worlds still look the same from there. The tables of names are read in a third world. -/
structure Matches (t : World) (home : Address) (w v : World) (s : Step) : Prop where
  told : told t home s (run w s).1 = toldAll t home (only t home s) (runAll false v (only t home s)).1
  alike : Alike home (run w s).2 (runAll false v (only t home s)).2.2

structure MatchesAll (t : World) (home : Address) (w v : World) (steps : List Step) : Prop where
  told : toldAll t home steps (runAll false w steps).1 =
    toldAll t home (onlyAll t home steps) (runAll false v (onlyAll t home steps)).1
  alike : Alike home (runAll false w steps).2.2 (runAll false v (onlyAll t home steps)).2.2

section
variable {t w v : World} {home : Address} {name ns : String} {i : Nat} {before : Store} {ending : Ending}
  {steps : List Step}

theorem actMatches {a : Act} (operation : a.isOperation = true) (tables : w.scene = t.scene)
    (alike : Alike home w v) : Matches t home w v (.act a) := by
  have working := performLocal operation w
  obtain ⟨r, answer, ran⟩ := actRun w a
  by_cases own : t.address? a = some home
  · obtain ⟨r', answer', ran'⟩ := actRun v a
    have here := (addressAlike tables a).trans own
    obtain ⟨same, cell⟩ := working.agrees v home here alike
    have left : only t home (.act a) = [.act a] := by rw [only, if_pos own]
    constructor
    · rw [left, runAll, ran, ran']
      simp only [told, toldAll, if_pos own, answer, answer', same, List.append_nil]
    · rw [left, runAll, ran, ran']
      exact ⟨working.spares.scene.trans (alike.scene.trans (performLocal operation v).spares.scene.symm),
        cell⟩
  · have elsewhere : w.address? a ≠ some home := by
      rw [addressAlike tables a]
      exact own
    have left : only t home (.act a) = [] := by rw [only, if_neg own]
    constructor
    · rw [left, ran]
      simp only [told, toldAll, if_neg own]
    · rw [left, ran]
      exact ⟨working.spares.scene.trans alike.scene,
        (working.spares.others home elsewhere).trans alike.cell⟩

theorem enterAlike (found : w.store name = .ok (i, before)) (alike : Alike home w v) :
    Alike home (w.putStore i before.enter) v where
  scene := (scenePut (storePlaced found) (Store.modeEnter before)).trans alike.scene
  cell := by
    rw [cellPut (storePlaced found), ← alike.cell]
    split
    · rename_i here
      rw [Store.cellEnter, cell?, here, storePlaced found]
      rfl
    · rfl

theorem alikeSymm (alike : Alike home w v) : Alike home v w := ⟨alike.scene.symm, alike.cell.symm⟩

theorem onlyHere (here : t.storeAddress? name ns = some home) :
    only t home (.transaction name ns ending steps) =
      [.transaction name ns ending (onlyAll t home steps)] := by
  simp only [only, here, if_true]

theorem onlyElsewhere {a : Address} (there : t.storeAddress? name ns = some a) (apart : a ≠ home) :
    only t home (.transaction name ns ending steps) = onlyAll t home steps := by
  simp only [only, there, if_neg apart]

theorem missingMatches {e : Failure} (missing : w.store name = .error e) (tables : w.scene = t.scene)
    (alike : Alike home w v) : Matches t home w v (.transaction name ns ending steps) := by
  have nowhere : t.storeAddress? name ns = none := by
    rw [storeAddress?, storeMissing tables missing]
  have left : only t home (.transaction name ns ending steps) = [] := by
    simp only [only, nowhere]
  constructor
  · rw [left]
    simp only [run, missing]
    rw [toldBlock, nowhere]
    cases steps <;> rfl
  · rw [left]
    simp only [run, missing]
    exact ⟨alike.scene, alike.cell⟩

theorem openedMatches (found : w.store name = .ok (i, before)) (apart : (⟨i, ns⟩ : Address) ≠ home)
    (caught : ending.propagates = false) (tables : w.scene = t.scene)
    (quiet : (runAll false (w.putStore i before.enter) steps).2.2.scene = w.scene)
    (inner : MatchesAll t home (w.putStore i before.enter) v steps) :
    Matches t home w v (.transaction name ns ending steps) := by
  have there : t.storeAddress? name ns = some ⟨i, ns⟩ := by
    rw [← storeAddressAlike tables, storeAddress?, found]
  have untold : ¬ (some (⟨i, ns⟩ : Address) = some home) := fun same => apart (Option.some.inj same)
  obtain ⟨r, -, outcome⟩ := blockOutcome ns steps found caught
  have spares := (blockSpares ns found caught quiet).1
  constructor
  · rw [onlyElsewhere there apart, outcome, toldBlock, there, if_neg untold, List.append_nil]
    exact inner.told
  · rw [onlyElsewhere there apart]
    exact ⟨spares.scene.trans inner.alike.scene,
      (spares.others home fun same => apart (Option.some.inj same)).trans inner.alike.cell⟩

theorem keptMatches {before' : Store} (found : w.store name = .ok (i, before))
    (found' : v.store name = .ok (i, before')) (here : (⟨i, ns⟩ : Address) = home)
    (caught : ending.propagates = false) (tables : w.scene = t.scene) (alike : Alike home w v)
    (quiet : (runAll false (w.putStore i before.enter) steps).2.2.scene = w.scene)
    (inner : MatchesAll t home (w.putStore i before.enter) (v.putStore i before'.enter) steps) :
    Matches t home w v (.transaction name ns ending steps) := by
  subst here
  have there : t.storeAddress? name ns = some ⟨i, ns⟩ := by
    rw [← storeAddressAlike tables, storeAddress?, found]
  have quiet' : (runAll false (v.putStore i before'.enter) (onlyAll t ⟨i, ns⟩ steps)).2.2.scene =
      v.scene := inner.alike.scene.symm.trans (quiet.trans alike.scene)
  obtain ⟨r, answer, outcome⟩ := blockOutcome ns steps found caught
  obtain ⟨r', answer', outcome'⟩ := blockOutcome ns (onlyAll t ⟨i, ns⟩ steps) found' caught
  obtain ⟨spares, own⟩ := blockSpares ns found caught quiet
  obtain ⟨spares', own'⟩ := blockSpares ns found' caught quiet'
  rw [← answer'] at answer
  constructor
  · rw [onlyHere there, runAll, toldAll, outcome, outcome', toldBlock, toldBlock, inner.told, answer]
    exact (List.append_nil _).symm
  · rw [onlyHere there]
    constructor
    · exact spares.scene.trans (inner.alike.scene.trans spares'.scene.symm)
    · refine own.trans (Eq.trans ?_ own'.symm)
      rw [alike.cell, inner.alike.cell]

end

mutual

theorem stepMatches (t : World) (home : Address) : (s : Step) → s.isCaught = true → ∀ {w v : World},
    w.scene = t.scene → Alike home w v → Matches t home w v s
  | .act a, caught, w, v, tables, alike => actMatches caught tables alike
  | .transaction name ns ending steps, caught, w, v, tables, alike => by
    simp only [Step.isCaught, Bool.and_eq_true, Bool.not_eq_true'] at caught
    cases found : w.store name with
    | error e => exact missingMatches found tables alike
    | ok named =>
      obtain ⟨i, before⟩ := named
      have entered := scenePut (storePlaced found) (Store.modeEnter before)
      have quiet := (runAllScene (w.putStore i before.enter) steps caught.2).trans entered
      -- entering is invisible from the address, so the inner steps start alike in either case
      have alike' := enterAlike found alike
      by_cases here : (⟨i, ns⟩ : Address) = home
      · obtain ⟨before', found', -⟩ := storeAlike alike.scene found
        have both := alikeSymm (enterAlike found' (alikeSymm alike'))
        have inner := stepsMatch t home steps caught.2 (entered.trans tables) both
        exact keptMatches found found' here caught.1 tables alike quiet inner
      · have inner := stepsMatch t home steps caught.2 (entered.trans tables) alike'
        exact openedMatches found here caught.1 tables quiet inner
  | .scope id ending steps, caught, w, v, tables, alike => by cases caught

theorem stepsMatch (t : World) (home : Address) : (steps : List Step) → allCaught steps = true →
    ∀ {w v : World}, w.scene = t.scene → Alike home w v → MatchesAll t home w v steps
  | [], _, w, v, tables, alike => ⟨rfl, alike⟩
  | s :: rest, caught, w, v, tables, alike => by
    simp only [allCaught, Bool.and_eq_true] at caught
    have first := stepMatches t home s caught.1 tables alike
    have tables' := (runScene w s caught.1).trans tables
    have later := stepsMatch t home rest caught.2 tables' first.alike
    obtain ⟨outcomes, world⟩ := runAllAppend v (only t home s) (onlyAll t home rest)
    constructor
    · rw [onlyAll, outcomes, toldAllAppend t home _ _ (runAllLength v (only t home s))]
      simp only [runAll, toldAll, first.told, later.told]
    · rw [onlyAll, world]
      exact later.alike

end

/-- Whatever else a program does, what it tells at an address and what it leaves there are told and left by
the program without all that works elsewhere. -/
theorem addressesIsolated (w : World) (home : Address) (steps : List Step)
    (caught : allCaught steps = true) :
    toldAll w home steps (runSession w steps) =
      toldAll w home (onlyAll w home steps) (runSession w (onlyAll w home steps)) ∧
    (runAll false w steps).2.2.cell? home.place home.ns =
      (runAll false w (onlyAll w home steps)).2.2.cell? home.place home.ns := by
  have whole := stepsMatch w home steps caught rfl ⟨rfl, rfl⟩
  exact ⟨whole.told, whole.alike.cell⟩

def serving (ns : String) : Binding :=
  ⟨⟨ns, .ofService .captured Service.logName Audit.defaultComponent ns⟩, 0, 0⟩

def sharing : World :=
  { World.start [] "" "" with
    stores := [.bytes .empty]
    storeNames := [("s", 0)]
    validators := [.canonical Settings.trial.bounds]
    services := [("a", serving "xyz"), ("b", serving "abc")] }

def crowning : Step := .act (.establish "a" (.direct (.setInitialAdmin (.string "peter"))))

def crossing : List Step :=
  [.act (.plant "s" "abc" "\x7b".toUTF8),
    .transaction "s" "abc" ⟨false, some "stop"⟩
      [.act (.establish "b" (.direct .abolishAdminRole)), crowning],
    .act (.raw "s" "xyz")]

theorem crowningUndisturbed :
    let written := "\x7b\"abolished\":false,\"admin\":\"peter\",\"proposed\":null\x7d".toUTF8
    toldAll sharing ⟨0, "xyz"⟩ crossing (runSession sharing crossing) =
      toldAll sharing ⟨0, "xyz"⟩ [crowning, .act (.raw "s" "xyz")]
        (runSession sharing [crowning, .act (.raw "s" "xyz")]) ∧
    (runAll false sharing crossing).2.2.cell? 0 "xyz" = some (.bytes written) := by
  intro written
  obtain ⟨told, cell⟩ := addressesIsolated sharing ⟨0, "xyz"⟩ crossing rfl
  exact ⟨told, cell.trans rfl⟩

end Handover.Session

/-
# The handlers of `Action.c`

Every `Htop_Action` of `src/Action.c`, as a function from the state to the state and the
reaction it returns.  What a handler calls outside `src/` (the nested pick loop, the signals
and affinity panels, the users table and password database, the sorting functions of
`Settings.c`) is an `Extern`: a result proved for every `Extern` holds however those behave.

Drawing, beeps, sleeps and the moves and resizes of the main panel are left out: they change
nothing a handler or a later key reads.  The re-sort `ProcessList_sort` that
`actionSetSortColumn` and `actionInvertSortOrder` run while updates are paused reorders the
backend's process list, not the panel: the main loop shows it when it rebuilds the main panel
before the next event (`Extern.rebuildPanel`, which reads the state the handler left, and so
its sort key and its pause flag).

The handlers that open a pick (`actionSetSortColumn`, `actionKill`, `actionSetAffinity`,
`actionFilterByUser`) are in `ActionPick.lean`.
-/
import Htop.Pick
import Htop.TagAllChildren

namespace Htop

/-! ## Collaborators outside `src/` -/

/-- The collaborators outside `src/` that the handlers call, each as the value or function it
contributes. -/
structure Extern where
  /-- The nested `ScreenManager_run` of a pick. -/
  run : PickRun
  /-- The rows `SignalsPanel_new` builds. -/
  signals : List ListItem
  /-- `UsersTable_foreach`: the users table's (uid, name) entries, in the order it walks
  them. -/
  users : List (UInt32 × String)
  /-- `getpwnam`: the password database, from user name to uid. -/
  getpwnam : String → Option UInt32
  /-- `Affinity_get`. -/
  Affinity_get : Process → Option Affinity
  /-- The rows `AffinityPanel_new` builds for an affinity. -/
  affinityRows : Affinity → List ℕ
  /-- `AffinityPanel_getAffinity`, the affinity the user left in the panel. -/
  AffinityPanel_getAffinity : Affinity
  /-- `Process_fields[f].name`, trimmed. -/
  fieldName : ℕ → String
  /-- `Settings_getActiveSortKey`. -/
  Settings_getActiveSortKey : Settings → ℤ
  /-- `Settings_setSortKey`. -/
  Settings_setSortKey : Settings → ℤ → Settings
  /-- `Settings_invertSortOrder`. -/
  Settings_invertSortOrder : Settings → Settings
  /-- The settings the setup screens of `Action_runSetup` leave behind, header write-back
  included. -/
  runSetup : Settings → Settings
  /-- `ProcessList_rebuildPanel`, as the main loop runs it before an event: the main panel the
  backend's process list fills, after a scan, a sort (the periodic one, or the re-sort a
  handler ran while updates were paused) or neither, for the state it reads.  Any rows in any
  order. -/
  rebuildPanel : State → Panel Process
  /-- `MainPanel_getValue`: the text of a row that the incremental search matches. -/
  processText : Process → String

/-- Modelled from the spec: the `ProcessField` values of the sort keys (`Process.h`, not in
`src/`). -/
def PID : ℤ := 1
/-- See `PID`. -/
def PERCENT_CPU : ℤ := 47
/-- See `PID`. -/
def PERCENT_MEM : ℤ := 48
/-- See `PID`. -/
def TIME : ℤ := 50

/-! ## Sorting -/

/-- `Action_setSortKey`: the settings after `Settings_setSortKey`, and the reaction. -/
def Action_setSortKey (ext : Extern) (settings : Settings) (sortKey : ℤ) : Settings × ℕ :=
  (ext.Settings_setSortKey settings sortKey,
    HTOP_REFRESH ||| HTOP_SAVE_SETTINGS ||| HTOP_UPDATE_PANELHDR ||| HTOP_KEEP_FOLLOWING)

/-- The handlers `actionSortByPID`, `…ByMemory`, `…ByCPU`, `…ByTime`: `Action_setSortKey`
with a fixed key. -/
def actionSortBy (sortKey : ℤ) (ext : Extern) (st : State) : State × ℕ :=
  let r := Action_setSortKey ext st.settings sortKey
  ({ st with settings := r.1 }, r.2)

/-- `actionSortByPID`. -/
def actionSortByPID : Extern → State → State × ℕ := actionSortBy PID
/-- `actionSortByMemory`. -/
def actionSortByMemory : Extern → State → State × ℕ := actionSortBy PERCENT_MEM
/-- `actionSortByCPU`. -/
def actionSortByCPU : Extern → State → State × ℕ := actionSortBy PERCENT_CPU
/-- `actionSortByTime`. -/
def actionSortByTime : Extern → State → State × ℕ := actionSortBy TIME

/-- `actionInvertSortOrder`; its re-sort while updates are paused is the main loop's next
rebuild (`Extern.rebuildPanel`). -/
def actionInvertSortOrder (ext : Extern) (st : State) : State × ℕ :=
  ({ st with settings := ext.Settings_invertSortOrder st.settings },
    HTOP_REFRESH ||| HTOP_SAVE_SETTINGS ||| HTOP_KEEP_FOLLOWING)

/-! ## Toggles -/

/-- The handlers that negate one boolean setting and return a fixed reaction. -/
def actionToggle (o : BoolOption) (reaction : ℕ) (st : State) : State × ℕ :=
  ({ st with settings := st.settings.toggle o }, reaction)

/-- `actionToggleKernelThreads`. -/
def actionToggleKernelThreads : State → State × ℕ :=
  actionToggle .hideKernelThreads (HTOP_RECALCULATE ||| HTOP_SAVE_SETTINGS ||| HTOP_KEEP_FOLLOWING)
/-- `actionToggleUserlandThreads`. -/
def actionToggleUserlandThreads : State → State × ℕ :=
  actionToggle .hideUserlandThreads (HTOP_RECALCULATE ||| HTOP_SAVE_SETTINGS ||| HTOP_KEEP_FOLLOWING)
/-- `actionToggleProgramPath`. -/
def actionToggleProgramPath : State → State × ℕ :=
  actionToggle .showProgramPath (HTOP_REFRESH ||| HTOP_SAVE_SETTINGS)
/-- `actionToggleMergedCommand`. -/
def actionToggleMergedCommand : State → State × ℕ :=
  actionToggle .showMergedCommand (HTOP_REFRESH ||| HTOP_SAVE_SETTINGS)

/-- Modelled from the spec: `ProcessList_expandTree` (ProcessList.c) marks every row
expanded ("sets every row's flag uniformly"). -/
def ProcessList_expandTree (st : State) : State :=
  { st with mainPanel := st.mainPanel.map fun p => { p with showChildren := true } }

/-- Modelled from the spec: `ProcessList_collapseAllBranches` (ProcessList.c) marks every row
collapsed. -/
def ProcessList_collapseAllBranches (st : State) : State :=
  { st with mainPanel := st.mainPanel.map fun p => { p with showChildren := false } }

/-- `actionToggleTreeView`. -/
def actionToggleTreeView (st : State) : State × ℕ :=
  let st := { st with settings := st.settings.toggle .treeView }
  let st := if !st.settings.flag .allBranchesCollapsed then ProcessList_expandTree st else st
  (st, HTOP_REFRESH ||| HTOP_SAVE_SETTINGS ||| HTOP_KEEP_FOLLOWING ||| HTOP_REDRAW_BAR |||
    HTOP_UPDATE_PANELHDR)

/-- `actionExpandOrCollapseAllBranches`. -/
def actionExpandOrCollapseAllBranches (st : State) : State × ℕ :=
  let st := { st with settings := st.settings.toggle .allBranchesCollapsed }
  let st := if st.settings.flag .allBranchesCollapsed then ProcessList_collapseAllBranches st
    else ProcessList_expandTree st
  (st, HTOP_REFRESH ||| HTOP_SAVE_SETTINGS)

/-- `actionTogglePauseProcessUpdate`. -/
def actionTogglePauseProcessUpdate (st : State) : State × ℕ :=
  ({ st with pauseProcessUpdate := !st.pauseProcessUpdate }, HTOP_REFRESH ||| HTOP_REDRAW_BAR)

/-! ## Search and filter -/

/-- `actionIncFilter`. -/
def actionIncFilter (st : State) : State × ℕ :=
  let inc := IncSet_activate st.inc .INC_FILTER
  ({ st with inc := inc, incFilter := IncSet_filter inc }, HTOP_REFRESH ||| HTOP_KEEP_FOLLOWING)

/-- `actionIncSearch`. -/
def actionIncSearch (st : State) : State × ℕ :=
  ({ st with inc := IncSet_activate (IncSet_reset st.inc .INC_SEARCH) .INC_SEARCH },
    HTOP_REFRESH ||| HTOP_KEEP_FOLLOWING)

/-! ## Tree view -/

/-- `expandCollapse`: flips the selected row's `showChildren`. -/
def expandCollapse (panel : Panel Process) : Panel Process × Bool :=
  match Panel_getSelected panel with
  | none => (panel, false)
  | some _ =>
    (panel.setItems (panel.items.modify (fun p => { p with showChildren := !p.showChildren })
      panel.selected) (by simp), true)

/-- `collapseIntoParent`: collapses the first row whose pid is the selected row's parent and
selects it.  The main panel's handler, which `Panel_setSelected` re-enters, changes nothing
modelled here. -/
def collapseIntoParent (panel : Panel Process) : Panel Process × Bool :=
  match Panel_getSelected panel with
  | none => (panel, false)
  | some p =>
    match panel.items.findIdx? (fun q => q.pid == Process_getParentPid p) with
    | some i =>
      (Panel_setSelected (panel.setItems
        (panel.items.modify (fun q => { q with showChildren := false }) i) (by simp)) i, true)
    | none => (panel, false)

/-- `actionExpandOrCollapse`. -/
def actionExpandOrCollapse (st : State) : State × ℕ :=
  let r := expandCollapse st.mainPanel
  ({ st with mainPanel := r.1 }, if r.2 then HTOP_RECALCULATE else HTOP_OK)

/-- `actionCollapseIntoParent`. -/
def actionCollapseIntoParent (st : State) : State × ℕ :=
  if !st.settings.flag .treeView then (st, HTOP_OK)
  else
    let r := collapseIntoParent st.mainPanel
    ({ st with mainPanel := r.1 }, if r.2 then HTOP_RECALCULATE else HTOP_OK)

/-! ## Priority -/

/-- `changePriority`: renices the tagged processes, or the selected one; returns whether any
row was tagged. -/
def changePriority (st : State) (delta : ℤ) : State × Bool :=
  MainPanel_foreachProcess st (Process_changePriorityBy delta)

/-- The handlers `actionHigherPriority` and `actionLowerPriority`. -/
def actionChangePriority (delta : ℤ) (st : State) : State × ℕ :=
  let r := changePriority st delta
  (r.1, if r.2 then HTOP_REFRESH else HTOP_OK)

/-- `actionHigherPriority`. -/
def actionHigherPriority : State → State × ℕ := actionChangePriority (-1)
/-- `actionLowerPriority`. -/
def actionLowerPriority : State → State × ℕ := actionChangePriority 1

/-! ## Screens and the rest -/

/-- `actionQuit`. -/
def actionQuit (st : State) : State × ℕ := (st, HTOP_QUIT)

/-- `Action_follow`: follow the selected process. -/
def Action_follow (st : State) : State × ℕ :=
  ({ st with following := MainPanel_selectedPid st.mainPanel }, HTOP_KEEP_FOLLOWING)

/-- `actionSetup`: the setup screens, run by `Action_runSetup`. -/
def actionSetup (ext : Extern) (st : State) : State × ℕ :=
  ({ st with settings := ext.runSetup st.settings },
    HTOP_REFRESH ||| HTOP_REDRAW_BAR ||| HTOP_UPDATE_PANELHDR)

/-- The handlers that open an information screen on the selected process (`actionLsof`,
`actionShowLocks`, `actionStrace`, `actionShowEnvScreen`, `actionShowCommandScreen`): the
screen changes nothing in the state.  `actionStrace` runs its screen only when the tracer
could be forked, which makes no difference here. -/
def actionInfoScreen (st : State) : State × ℕ :=
  match Panel_getSelected st.mainPanel with
  | none => (st, HTOP_OK)
  | some _ => (st, HTOP_REFRESH ||| HTOP_REDRAW_BAR)

/-- `actionLsof`. -/
def actionLsof : State → State × ℕ := actionInfoScreen
/-- `actionShowLocks`. -/
def actionShowLocks : State → State × ℕ := actionInfoScreen
/-- `actionStrace`. -/
def actionStrace : State → State × ℕ := actionInfoScreen
/-- `actionShowEnvScreen`. -/
def actionShowEnvScreen : State → State × ℕ := actionInfoScreen
/-- `actionShowCommandScreen`. -/
def actionShowCommandScreen : State → State × ℕ := actionInfoScreen

/-- `actionRedraw`. -/
def actionRedraw (st : State) : State × ℕ := (st, HTOP_REFRESH ||| HTOP_REDRAW_BAR)

/-- `actionHelp`: the help screen reads the settings and waits for a key. -/
def actionHelp (st : State) : State × ℕ :=
  (st, HTOP_RECALCULATE ||| HTOP_REDRAW_BAR ||| HTOP_KEEP_FOLLOWING)

/-! ## Tagging -/

/-- `actionTag`: flips the selected row's tag and moves the selection down. -/
def actionTag (st : State) : State × ℕ :=
  match Panel_getSelected st.mainPanel with
  | none => (st, HTOP_OK)
  | some _ =>
    let panel := st.mainPanel.setItems
      (st.mainPanel.items.modify Process_toggleTag st.mainPanel.selected) (by simp)
    ({ st with mainPanel := (Panel_onKey panel KEY_DOWN).1 }, HTOP_OK)

/-- `actionUntagAll`. -/
def actionUntagAll (st : State) : State × ℕ :=
  ({ st with mainPanel := st.mainPanel.map fun p => { p with tag := false } }, HTOP_REFRESH)

/-- `actionTagAllChildren`: `tagAllChildren` on the selected row.  It runs with one more
unit of fuel than there are rows, past the depth the recursion can reach
(`tagAllChildren_terminates`), so its `none` branch is never taken. -/
def actionTagAllChildren (st : State) : State × ℕ :=
  match Panel_getSelected st.mainPanel with
  | none => (st, HTOP_OK)
  | some _ =>
    match h : tagAllChildren (st.mainPanel.items.length + 1) st.mainPanel.items
        st.mainPanel.selected with
    | some (rows, _) =>
      ({ st with mainPanel := st.mainPanel.setItems rows (tagAllChildren_tagLe h).length_eq.symm },
        HTOP_OK)
    | none => (st, HTOP_OK)

/-- What `actionTagAllChildren` does: it replaces the main panel's rows, and nothing else, by
the rows of a finished `tagAllChildren` on the selected row (or leaves an empty panel). -/
theorem actionTagAllChildren_spec (st : State) :
    ∃ rows h, (actionTagAllChildren st).1 = { st with mainPanel := st.mainPanel.setItems rows h } ∧
      (st.mainPanel.items = [] ∧ rows = st.mainPanel.items ∨
        ∃ c, tagAllChildren (st.mainPanel.items.length + 1) st.mainPanel.items
          st.mainPanel.selected = some (rows, c)) := by
  unfold actionTagAllChildren
  split
  · rename_i hnone
    refine ⟨st.mainPanel.items, rfl, rfl, .inl ⟨?_, rfl⟩⟩
    by_contra hne
    obtain ⟨x, hx⟩ := Panel_getSelected_isSome st.mainPanel hne
    simp [hx] at hnone
  · split
    · rename_i rows c h
      exact ⟨rows, (tagAllChildren_tagLe h).length_eq.symm, rfl, .inr ⟨c, h⟩⟩
    · rename_i h
      have hle := untagged_le_of_forall₂ (forall₂_tagLe_modify st.mainPanel.items st.mainPanel.selected)
      have hcount : untagged st.mainPanel.items ≤ st.mainPanel.items.length := List.countP_le_length _
      obtain ⟨r, hr⟩ := @tagAllChildren_isSome (st.mainPanel.items.length + 1) st.mainPanel.items
        st.mainPanel.selected (by omega)
      simp [hr] at h

/-- **Tag with children: the frame.**  The action changes only the main panel's rows, keeps
the selection, changes no field of a row but its tag, clears no tag, and every row tagged
afterwards was tagged before, is the selected row, or descends from it within the panel,
whatever the parent relation and the tags before. -/
theorem actionTagAllChildren_frame (st : State) :
    ∃ rows h, (actionTagAllChildren st).1 = { st with mainPanel := st.mainPanel.setItems rows h } ∧
      List.Forall₂ Process.TagLe st.mainPanel.items rows ∧
      ∀ k, Tagged rows k → Tagged st.mainPanel.items k ∨ k = st.mainPanel.selected ∨
        IsDescendant st.mainPanel.items st.mainPanel.selected k := by
  obtain ⟨rows, h, heq, ⟨-, rfl⟩ | ⟨c, hrun⟩⟩ := actionTagAllChildren_spec st
  · exact ⟨_, h, heq, List.forall₂_same.mpr fun x _ => .refl x, fun k hk => .inl hk⟩
  · exact ⟨rows, h, heq, tagAllChildren_tagLe hrun, tagAllChildren_sound hrun⟩

/-- **Tag with children reaches the untagged subtree.**  Every row reachable from the
selected row through child rows that were all untagged before the action is tagged
afterwards. -/
theorem actionTagAllChildren_tags_untagged_descendants (st : State) (k : ℕ)
    (hk : Relation.TransGen (fun a b => ChildRow st.mainPanel.items a b ∧
      Untagged st.mainPanel.items b) st.mainPanel.selected k) :
    Tagged (actionTagAllChildren st).1.mainPanel.items k := by
  obtain ⟨rows, h, heq, ⟨hnil, -⟩ | ⟨c, hrun⟩⟩ := actionTagAllChildren_spec st
  · obtain ⟨_, ⟨⟨_, _, ha, -⟩, -⟩, -⟩ := Relation.TransGen.head'_iff.mp hk
    simp [hnil] at ha
  · rw [heq]
    have hsel : st.mainPanel.selected < st.mainPanel.items.length := by
      obtain ⟨_, ⟨⟨_, _, ha, -⟩, -⟩, -⟩ := Relation.TransGen.head'_iff.mp hk
      exact (List.getElem?_eq_some_iff.mp ha).1
    obtain ⟨-, hcl⟩ := tagAllChildren_closed hrun hsel
    have key : ∀ k, Relation.TransGen (fun a b => ChildRow st.mainPanel.items a b ∧
        Untagged st.mainPanel.items b) st.mainPanel.selected k →
        Tagged rows k ∧ Untagged st.mainPanel.items k := by
      intro k hk
      induction hk with
      | single hab => exact ⟨hcl _ _ (.inl rfl) hab.1, hab.2⟩
      | tail _ hbc ih => exact ⟨hcl _ _ (.inr ⟨ih.2, ih.1⟩) hbc.1, hbc.2⟩
    exact (key k hk).1

/-- The spec's tag-with-children scenario: a parent (pid 1) with children pid 2 and pid 3,
pid 2 with a child pid 4, and an unrelated row pid 5; the parent is selected and nothing is
tagged. -/
def tagTreeState : State where
  settings := ⟨fun _ => false, fun _ => 0, 0, [], false⟩
  mainPanel := ⟨[⟨1, 0, false, true⟩, ⟨2, 1, false, true⟩, ⟨3, 1, false, true⟩,
    ⟨4, 2, false, true⟩, ⟨5, 0, false, true⟩], 0, 10, "", .inl (by decide)⟩
  inc := ⟨none, "", ""⟩
  following := -1
  userId := 0
  incFilter := none
  cpuCount := 1
  pauseProcessUpdate := false
  log := []

/-- In the spec's scenario the grandchild (pid 4) is reached from the selected row through
untagged child rows, and tagging with children tags it. -/
theorem actionTagAllChildren_tags_grandchild :
    Relation.TransGen (fun a b => ChildRow tagTreeState.mainPanel.items a b ∧
        Untagged tagTreeState.mainPanel.items b) tagTreeState.mainPanel.selected 3 ∧
      Tagged (actionTagAllChildren tagTreeState).1.mainPanel.items 3 :=
  have h01 : ChildRow tagTreeState.mainPanel.items 0 1 := ⟨_, _, rfl, rfl, rfl⟩
  have h13 : ChildRow tagTreeState.mainPanel.items 1 3 := ⟨_, _, rfl, rfl, rfl⟩
  have hk : Relation.TransGen (fun a b => ChildRow tagTreeState.mainPanel.items a b ∧
      Untagged tagTreeState.mainPanel.items b) tagTreeState.mainPanel.selected 3 :=
    .tail (.single ⟨h01, _, rfl, rfl⟩) ⟨h13, _, rfl, rfl⟩
  ⟨hk, actionTagAllChildren_tags_untagged_descendants tagTreeState 3 hk⟩

/-- A main panel whose middle row was tagged by hand before tagging its parent with
children: rows pid 1 (parent 0), pid 2 (parent 1, tagged), pid 3 (parent 2). -/
def tagAfterTagState : State where
  settings := ⟨fun _ => false, fun _ => 0, 0, [], false⟩
  mainPanel := ⟨[⟨1, 0, false, true⟩, ⟨2, 1, true, true⟩, ⟨3, 2, false, true⟩], 0, 10, "",
    .inl (by decide)⟩
  inc := ⟨none, "", ""⟩
  following := -1
  userId := 0
  incFilter := none
  cpuCount := 1
  pauseProcessUpdate := false
  log := []

/-- The row with pid 3 descends from the selected row through the row tagged by hand, and
tagging the selected row with children leaves it untagged: the walk does not descend below
a row that is already tagged. -/
theorem actionTagAllChildren_skips_below_tagged :
    IsDescendant tagAfterTagState.mainPanel.items 0 2 ∧
      ¬ Tagged (actionTagAllChildren tagAfterTagState).1.mainPanel.items 2 := by
  have hrows : (actionTagAllChildren tagAfterTagState).1.mainPanel.items =
      [⟨1, 0, true, true⟩, ⟨2, 1, true, true⟩, ⟨3, 2, false, true⟩] := rfl
  have h01 : ChildRow tagAfterTagState.mainPanel.items 0 1 := ⟨_, _, rfl, rfl, rfl⟩
  have h12 : ChildRow tagAfterTagState.mainPanel.items 1 2 := ⟨_, _, rfl, rfl, rfl⟩
  refine ⟨.tail (.single h01) h12, ?_⟩
  rw [hrows]
  rintro ⟨p, hp, ht⟩
  simp only [List.getElem?_cons_succ, List.getElem?_cons_zero, Option.some.injEq] at hp
  subst hp
  simp at ht

end Htop

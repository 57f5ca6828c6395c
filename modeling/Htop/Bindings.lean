/-
# The key bindings and the settings frame

`Action_setBindings` (`src/Action.c`, lines 630–685) fills the main panel's key table with
the handlers of `Action.c`.  In C a handler is a function pointer; here it is named by an
`Htop_Action`, so that a statement can single one out, and `Htop_Action.run` is the handler
itself.

The settings frame: the `Settings` record carries a `changed` flag, and a handler may also
return `HTOP_SAVE_SETTINGS`; either way the driver persists the settings.  A handler that
changes an option and does neither loses the user's choice.

Main results:

* `Action_setBindings_mem` : every handler in the key table is one `Action_setBindings`
  installed at that key;
* `action_run_settings_eq` : the handlers that set no option leave the settings as they
  were, in every state and whatever the pick loops and screens they open do;
* `action_run_flagged` : every handler but `actionSetup` flags what it changes.
-/
import Htop.ActionPick

namespace Htop

/-! ## Handlers -/

/-- The handlers `Action_setBindings` installs. -/
inductive Htop_Action
  | actionTag
  | actionExpandOrCollapseAllBranches
  | actionExpandOrCollapse
  | actionSetSortColumn
  | actionIncSearch
  | actionHelp
  | actionSetup
  | Action_follow
  | actionToggleUserlandThreads
  | actionInvertSortOrder
  | actionToggleKernelThreads
  | actionSortByMemory
  | actionSortByPID
  | actionSortByCPU
  | actionSortByTime
  | actionUntagAll
  | actionTogglePauseProcessUpdate
  | actionLowerPriority
  | actionRedraw
  | actionCollapseIntoParent
  | actionIncFilter
  | actionHigherPriority
  | actionSetAffinity
  | actionTagAllChildren
  | actionShowEnvScreen
  | actionKill
  | actionLsof
  | actionToggleMergedCommand
  | actionToggleProgramPath
  | actionQuit
  | actionStrace
  | actionToggleTreeView
  | actionFilterByUser
  | actionShowCommandScreen
  | actionShowLocks
  | actionExpandCollapseOrSortColumn
  deriving DecidableEq, Repr

/-- The handler an `Htop_Action` names. -/
def Htop_Action.run : Htop_Action → Extern → State → State × ℕ
  | .actionTag, _ => Htop.actionTag
  | .actionExpandOrCollapseAllBranches, _ => Htop.actionExpandOrCollapseAllBranches
  | .actionExpandOrCollapse, _ => Htop.actionExpandOrCollapse
  | .actionSetSortColumn, ext => Htop.actionSetSortColumn ext
  | .actionIncSearch, _ => Htop.actionIncSearch
  | .actionHelp, _ => Htop.actionHelp
  | .actionSetup, ext => Htop.actionSetup ext
  | .Action_follow, _ => Htop.Action_follow
  | .actionToggleUserlandThreads, _ => Htop.actionToggleUserlandThreads
  | .actionInvertSortOrder, ext => Htop.actionInvertSortOrder ext
  | .actionToggleKernelThreads, _ => Htop.actionToggleKernelThreads
  | .actionSortByMemory, ext => Htop.actionSortByMemory ext
  | .actionSortByPID, ext => Htop.actionSortByPID ext
  | .actionSortByCPU, ext => Htop.actionSortByCPU ext
  | .actionSortByTime, ext => Htop.actionSortByTime ext
  | .actionUntagAll, _ => Htop.actionUntagAll
  | .actionTogglePauseProcessUpdate, _ => Htop.actionTogglePauseProcessUpdate
  | .actionLowerPriority, _ => Htop.actionLowerPriority
  | .actionRedraw, _ => Htop.actionRedraw
  | .actionCollapseIntoParent, _ => Htop.actionCollapseIntoParent
  | .actionIncFilter, _ => Htop.actionIncFilter
  | .actionHigherPriority, _ => Htop.actionHigherPriority
  | .actionSetAffinity, ext => Htop.actionSetAffinity ext
  | .actionTagAllChildren, _ => Htop.actionTagAllChildren
  | .actionShowEnvScreen, _ => Htop.actionShowEnvScreen
  | .actionKill, ext => Htop.actionKill ext
  | .actionLsof, _ => Htop.actionLsof
  | .actionToggleMergedCommand, _ => Htop.actionToggleMergedCommand
  | .actionToggleProgramPath, _ => Htop.actionToggleProgramPath
  | .actionQuit, _ => Htop.actionQuit
  | .actionStrace, _ => Htop.actionStrace
  | .actionToggleTreeView, _ => Htop.actionToggleTreeView
  | .actionFilterByUser, ext => Htop.actionFilterByUser ext
  | .actionShowCommandScreen, _ => Htop.actionShowCommandScreen
  | .actionShowLocks, _ => Htop.actionShowLocks
  | .actionExpandCollapseOrSortColumn, ext => Htop.actionExpandCollapseOrSortColumn ext

/-! ## The key table -/

/-- The code of a character key. -/
def key (c : Char) : ℤ := c.toNat

/-- The writes of `Action_setBindings`, in order. -/
def Action_bindings : List (ℤ × Htop_Action) :=
  [(key ' ', .actionTag), (key '*', .actionExpandOrCollapseAllBranches),
   (key '+', .actionExpandOrCollapse), (key ',', .actionSetSortColumn),
   (key '-', .actionExpandOrCollapse), (key '.', .actionSetSortColumn),
   (key '/', .actionIncSearch), (key '<', .actionSetSortColumn),
   (key '=', .actionExpandOrCollapse), (key '>', .actionSetSortColumn),
   (key '?', .actionHelp), (key 'C', .actionSetup), (key 'F', .Action_follow),
   (key 'H', .actionToggleUserlandThreads), (key 'I', .actionInvertSortOrder),
   (key 'K', .actionToggleKernelThreads), (key 'M', .actionSortByMemory),
   (key 'N', .actionSortByPID), (key 'P', .actionSortByCPU), (key 'S', .actionSetup),
   (key 'T', .actionSortByTime), (key 'U', .actionUntagAll),
   (key 'Z', .actionTogglePauseProcessUpdate), (key '[', .actionLowerPriority),
   -- Ctrl+L, the C literal `'\014'`
   (12, .actionRedraw),
   -- the C literal `'\177'`
   (127, .actionCollapseIntoParent),
   -- the backslash key
   (92, .actionIncFilter),
   (key ']', .actionHigherPriority), (key 'a', .actionSetAffinity),
   (key 'c', .actionTagAllChildren), (key 'e', .actionShowEnvScreen), (key 'h', .actionHelp),
   (key 'k', .actionKill), (key 'l', .actionLsof), (key 'm', .actionToggleMergedCommand),
   (key 'p', .actionToggleProgramPath), (key 'q', .actionQuit), (key 's', .actionStrace),
   (key 't', .actionToggleTreeView), (key 'u', .actionFilterByUser),
   (key 'w', .actionShowCommandScreen), (key 'x', .actionShowLocks),
   (KEY_F 1, .actionHelp), (KEY_F 2, .actionSetup), (KEY_F 3, .actionIncSearch),
   (KEY_F 4, .actionIncFilter), (KEY_F 5, .actionToggleTreeView),
   (KEY_F 6, .actionSetSortColumn), (KEY_F 7, .actionHigherPriority),
   (KEY_F 8, .actionLowerPriority), (KEY_F 9, .actionKill), (KEY_F 10, .actionQuit),
   (KEY_F 18, .actionExpandCollapseOrSortColumn), (KEY_RECLICK, .actionExpandOrCollapse)]

/-- One write `keys[ch] = action`; `none` is a `NULL` entry. -/
def bindKey (keys : ℤ → Option Htop_Action) (b : ℤ × Htop_Action) : ℤ → Option Htop_Action :=
  Function.update keys b.1 (some b.2)

/-- `Action_setBindings(keys)`: the key table after the writes. -/
def Action_setBindings (keys : ℤ → Option Htop_Action) : ℤ → Option Htop_Action :=
  Action_bindings.foldl bindKey keys

/-- After a run of writes, an entry is one of the writes or was there before. -/
theorem foldl_update_mem (l : List (ℤ × Htop_Action)) (keys : ℤ → Option Htop_Action) (ch : ℤ)
    (a : Htop_Action)
    (h : l.foldl bindKey keys ch = some a) :
    (ch, a) ∈ l ∨ keys ch = some a := by
  induction l generalizing keys with
  | nil => exact .inr h
  | cons b l ih =>
    rcases ih _ h with hl | hk
    · exact .inl (List.mem_cons_of_mem _ hl)
    · by_cases hb : ch = b.1
      · subst hb
        simp only [bindKey, Function.update_same, Option.some.injEq] at hk
        exact .inl (hk ▸ List.mem_cons_self _ _)
      · exact .inr (by simpa [bindKey, Function.update_noteq hb] using hk)

/-- Every handler of the key table, which starts zeroed, is one `Action_setBindings`
installed at that key. -/
theorem Action_setBindings_mem {ch : ℤ} {a : Htop_Action}
    (h : Action_setBindings (fun _ => none) ch = some a) : (ch, a) ∈ Action_bindings :=
  (foldl_update_mem _ _ ch a h).resolve_right (by simp)

/-! ## The settings frame -/

/-- The handlers that set an option: the sort handlers, the toggles of a setting, and the
setup screens. -/
def Htop_Action.setsOptions : Htop_Action → Bool
  | .actionSortByPID | .actionSortByMemory | .actionSortByCPU | .actionSortByTime
  | .actionInvertSortOrder | .actionSetSortColumn | .actionExpandCollapseOrSortColumn
  | .actionToggleKernelThreads | .actionToggleUserlandThreads | .actionToggleProgramPath
  | .actionToggleMergedCommand | .actionToggleTreeView | .actionExpandOrCollapseAllBranches
  | .actionSetup => true
  | _ => false

theorem actionKill_settings (ext : Extern) (st : State) :
    (actionKill ext st).1.settings = st.settings := by
  simp only [actionKill]
  split
  · split <;> simp
  · simp

theorem actionSetAffinity_settings (ext : Extern) (st : State) :
    (actionSetAffinity ext st).1.settings = st.settings := by
  unfold actionSetAffinity
  repeat' split
  all_goals simp only [apply_ite State.settings, MainPanel_foreachProcess_settings,
    Action_pickFromVector_settings, ite_self]

theorem actionFilterByUser_settings (ext : Extern) (st : State) :
    (actionFilterByUser ext st).1.settings = st.settings := by
  simp only [actionFilterByUser]
  split <;> simp

/-- A state with no process rows and every setting off. -/
def idleState : State where
  settings := ⟨fun _ => false, fun _ => 0, 0, [], false⟩
  mainPanel := Panel_new 0
  inc := ⟨none, "", ""⟩
  following := -1
  userId := 0
  incFilter := none
  cpuCount := 1
  pauseProcessUpdate := false
  log := []

/-- Collaborators with nothing to offer: every pick is left with Escape. -/
def idleExtern : Extern where
  run := ⟨Panel_new 0, 0, false, 27⟩
  signals := []
  users := []
  getpwnam := fun _ => none
  Affinity_get := fun _ => none
  affinityRows := fun _ => []
  AffinityPanel_getAffinity := ⟨[]⟩
  fieldName := fun _ => ""
  Settings_getActiveSortKey := fun _ => 0
  Settings_setSortKey := fun s _ => s
  Settings_invertSortOrder := id
  runSetup := id
  rebuildPanel := State.mainPanel
  processText := fun _ => ""

/-- **The handlers that set no option leave the settings alone**, in every state and
whatever the pick loops and information screens they open do. -/
theorem action_run_settings_eq (ext : Extern) (st : State) (a : Htop_Action)
    (ha : a.setsOptions = false) : (a.run ext st).1.settings = st.settings := by
  cases a <;> simp only [Htop_Action.setsOptions, Bool.true_eq_false] at ha
  case actionKill => exact actionKill_settings ext st
  case actionSetAffinity => exact actionSetAffinity_settings ext st
  case actionFilterByUser => exact actionFilterByUser_settings ext st
  case actionTagAllChildren =>
    obtain ⟨rows, h, heq, -⟩ := actionTagAllChildren_spec st
    simp only [Htop_Action.run, heq]
  all_goals simp only [Htop_Action.run, actionTag, actionCollapseIntoParent,
    actionShowEnvScreen, actionShowCommandScreen, actionLsof, actionStrace, actionShowLocks,
    actionInfoScreen]
  all_goals first | rfl | (split <;> rfl)

/-- The pick of `actionSetSortColumn` changes the settings only through `Action_setSortKey`,
whose reaction it passes on. -/
theorem actionSetSortColumn_flagged (ext : Extern) (st : State) :
    SettingsChangeFlagged st.settings (actionSetSortColumn ext st).1.settings
      (actionSetSortColumn ext st).2 := by
  simp only [actionSetSortColumn]
  split
  · exact .of_saves (by simp only [Action_setSortKey]; decide)
  · exact .of_eq (by simp)

/-- **Every handler but `actionSetup` flags what it changes.**  If it changes any field of
the settings, it leaves `changed` set or returns `HTOP_SAVE_SETTINGS`. -/
theorem action_run_flagged (ext : Extern) (st : State) (a : Htop_Action)
    (ha : a ≠ .actionSetup) :
    SettingsChangeFlagged st.settings (a.run ext st).1.settings (a.run ext st).2 := by
  cases hs : a.setsOptions
  · exact .of_eq (action_run_settings_eq ext st a hs)
  cases a <;> simp only [Htop_Action.setsOptions, Bool.false_eq_true] at hs
  case actionSetup => exact absurd rfl ha
  case actionSetSortColumn => exact actionSetSortColumn_flagged ext st
  case actionExpandCollapseOrSortColumn =>
    simp only [Htop_Action.run, actionExpandCollapseOrSortColumn]
    split
    · exact .of_eq rfl
    · exact actionSetSortColumn_flagged ext st
  all_goals exact .of_saves (by simp only [Htop_Action.run, actionSortByPID, actionSortByMemory,
    actionSortByCPU, actionSortByTime, actionSortBy, Action_setSortKey, actionInvertSortOrder,
    actionToggleKernelThreads, actionToggleUserlandThreads, actionToggleProgramPath,
    actionToggleMergedCommand, actionToggle, actionToggleTreeView,
    actionExpandOrCollapseAllBranches]; decide)

end Htop

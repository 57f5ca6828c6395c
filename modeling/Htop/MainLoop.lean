/-
# The main loop

The driver of the main screen: `ScreenManager_run` over the main panel, whose handler is
`MainPanel_eventHandler`, and the backend that refills the panel.  `ScreenManager.c`,
`MainPanel.c`, `IncSet.c` and `ProcessList.c` are not in `src/`; what of them is used here is
modelled from the spec, each definition naming its section.

Scope.  An event of the loop is a key, or the end of the refresh interval with no key
(`ERR`).  Before each event the driver rebuilds the main panel from the backend's process
list (`ProcessList_rebuildPanel`, after the periodic scan and sort, or after the previous
key): that panel is the collaborator `Extern.rebuildPanel`, of any rows in any order, so
every result below holds whatever the backend samples and however it sorts, the re-sort a
handler runs while updates are paused included (§5, §6).  While an incremental search or
filter is active every key is text for it (§4.3); otherwise Escape does nothing, a key of
the key table runs its handler (§4.5), and any other key is a navigation key for the panel
(§4.2).  The reaction is then applied: `HTOP_SAVE_SETTINGS` sets `changed`, `HTOP_QUIT` ends
the loop, and a reaction without `HTOP_KEEP_FOLLOWING` stops following.  Left out, as the
spec does not name them: the search by a pid typed in digits, the sideways scroll of Left
and Right, and the clicks on the header that sort by a column.

Main results:

* `mainStep_cases` : what one event can do to the settings and to the loop;
* `runKeys_settings_flagged` : over any keys none of which is bound to `actionSetup`, a
  change of the settings is flagged;
* `mainLoop_eq_runKeys` : the main loop is the run of its events up to the first that ends
  it, so that what holds of every run holds of the main loop (`mainLoop_settings`);
* `mainStep_quits_iff` : an event ends the loop exactly when it is a key bound to
  `actionQuit`, other than Escape, reaching the main panel while no incremental mode is
  active;
* `mainLoop_append` : keys none of which is bound to `actionQuit` never end the loop, and
  `mainLoop_quit` : a key bound to it that reaches the main panel ends it.
-/
import Htop.SettingsFrame

namespace Htop

/-! ## Incremental search and filter -/

/-- ncurses' `ERR`: what `getch` returns when the refresh interval passes with no key. -/
def ERR : ℤ := -1

/-- ncurses' `KEY_BACKSPACE`. -/
def KEY_BACKSPACE : ℤ := 0o407

/-- The text of an incremental mode. -/
def IncSet.text (inc : IncSet) : IncType → String
  | .INC_SEARCH => inc.search
  | .INC_FILTER => inc.filter

/-- `inc` with the text of `mode` replaced. -/
def IncSet.setText (inc : IncSet) : IncType → String → IncSet
  | .INC_SEARCH, text => { inc with search := text }
  | .INC_FILTER, text => { inc with filter := text }

/-- Modelled from the spec (§4.3): `IncSet_handleKey` on a key while `mode` is active.  A
printable character is appended to the mode's text and backspace removes its last character;
Escape leaves the mode and takes a filter back to "no filter"; Enter leaves the mode with the
text kept (a filter stays applied), and so does every key the spec does not name.  Returns
the `IncSet` and whether the filter's text changed. -/
def IncSet_handleKey (inc : IncSet) (mode : IncType) (ch : ℤ) : IncSet × Bool :=
  if 0x20 ≤ ch ∧ ch < 0x7f then
    (inc.setText mode ((inc.text mode).push (Char.ofNat ch.toNat)), mode = .INC_FILTER)
  else if ch = KEY_BACKSPACE ∨ ch = 127 then
    (inc.setText mode ((inc.text mode).dropRight 1), mode = .INC_FILTER ∧ inc.text mode ≠ "")
  else if ch = 27 then
    ({ (if mode = .INC_FILTER then inc.setText mode "" else inc) with active := none },
      mode = .INC_FILTER)
  else ({ inc with active := none }, false)

/-- `text` contains `pattern`, ignoring case (`String_contains_i`). -/
def containsIgnoringCase (text pattern : String) : Bool :=
  text.toLower.toList.tails.any fun t => pattern.toLower.toList.isPrefixOf t

/-- Modelled from the spec (§4.3): the row an incremental search finds, the first whose text
contains the search text, ignoring case; `none` is "not found", which leaves the selection. -/
def IncSet_search (text : Process → String) (panel : Panel Process) (pattern : String) :
    Option ℕ :=
  panel.items.findIdx? fun p => containsIgnoringCase (text p) pattern

/-- Modelled from the spec (§4.3): a key for the active incremental `mode`.  A filter whose
text changed becomes the process list's (`pl->incFilter`) and asks for a refresh; a search
whose text changed selects the row it finds and follows it (`Action_follow`). -/
def MainPanel_incKey (ext : Extern) (st : State) (mode : IncType) (ch : ℤ) : State × ℕ :=
  let r := IncSet_handleKey st.inc mode ch
  let st' := { st with inc := r.1, incFilter := if r.2 then IncSet_filter r.1 else st.incFilter }
  let reaction := if r.2 then HTOP_REFRESH ||| HTOP_REDRAW_BAR else HTOP_OK
  let searched := mode = .INC_SEARCH ∧ r.1.active = some mode ∧ r.1.search ≠ st.inc.search
  match if searched then IncSet_search ext.processText st'.mainPanel r.1.search else none with
  | some i =>
    let f := Action_follow { st' with mainPanel := Panel_setSelected st'.mainPanel i }
    (f.1, reaction ||| f.2)
  | none => (st', reaction)

/-! ## One event -/

/-- `reaction & HTOP_QUIT`: the reaction ends the loop. -/
def Quits (reaction : ℕ) : Prop := reaction &&& HTOP_QUIT ≠ 0

instance (reaction : ℕ) : Decidable (Quits reaction) := inferInstanceAs (Decidable (_ ≠ _))

/-- Modelled from the spec (§4.5, §6): the reaction block of `MainPanel_eventHandler`.
`HTOP_SAVE_SETTINGS` marks the settings to be persisted (`changed`), and a reaction that
neither quits nor keeps following stops following.  Redraw, recalculation and the panel
header act on the screen and the backend. -/
def applyReaction (st : State) (reaction : ℕ) : State :=
  let st := if SavesSettings reaction then { st with settings := { st.settings with changed := true } }
    else st
  if Quits reaction ∨ reaction &&& HTOP_KEEP_FOLLOWING ≠ 0 then st else { st with following := -1 }

/-- Modelled from the spec: `MainPanel_eventHandler(super, ch)` on a key, with the screen
manager's `Panel_onKey` for a key it leaves (§4.4).  The active incremental mode takes every
key; Escape does nothing; a key of the key table runs its handler; Left and Right scroll the
panel sideways (left out); any other key is a navigation key for the panel.  The reaction is
applied, and returned. -/
def MainPanel_eventHandler (keys : ℤ → Option Htop_Action) (ext : Extern) (st : State)
    (ch : ℤ) : State × ℕ :=
  match st.inc.active with
  | some mode =>
    let r := MainPanel_incKey ext st mode ch
    (applyReaction r.1 r.2, r.2)
  | none =>
    if ch = 27 then (st, HTOP_OK)
    else match keys ch with
      | some a =>
        let r := a.run ext st
        (applyReaction r.1 r.2, r.2)
      | none =>
        if ch = KEY_LEFT ∨ ch = KEY_CTRL 'B' ∨ ch = KEY_RIGHT ∨ ch = KEY_CTRL 'F' then (st, HTOP_OK)
        else (applyReaction { st with mainPanel := (Panel_onKey st.mainPanel ch).1 } HTOP_OK, HTOP_OK)

/-- Modelled from the spec (§2, §5): one event of the main loop.  The driver first rebuilds
the main panel from the backend; the end of the refresh interval (`ERR`) then ends the event,
and a key goes to `MainPanel_eventHandler`.  Returns the reaction, `HTOP_OK` for `ERR`. -/
def mainStep (keys : ℤ → Option Htop_Action) (ext : Extern) (st : State) (ch : ℤ) : State × ℕ :=
  let st := { st with mainPanel := ext.rebuildPanel st }
  if ch = ERR then (st, HTOP_OK) else MainPanel_eventHandler keys ext st ch

/-- The events of the main loop, each with the behaviour of the collaborators at that event:
the final state and the reactions, in order, whether or not one of them quits. -/
def runKeys (keys : ℤ → Option Htop_Action) : State → List (Extern × ℤ) → State × List ℕ
  | st, [] => (st, [])
  | st, (ext, ch) :: events =>
    let r := mainStep keys ext st ch
    let rest := runKeys keys r.1 events
    (rest.1, r.2 :: rest.2)

/-- The main loop over the events of a session: it ends after the event whose reaction
quits. -/
def mainLoop (keys : ℤ → Option Htop_Action) : State → List (Extern × ℤ) → State
  | st, [] => st
  | st, (ext, ch) :: events =>
    let r := mainStep keys ext st ch
    if Quits r.2 then r.1 else mainLoop keys r.1 events

/-! ## What one event does -/

@[simp] theorem applyReaction_settings (st : State) (reaction : ℕ) :
    (applyReaction st reaction).settings =
      if SavesSettings reaction then { st.settings with changed := true } else st.settings := by
  unfold applyReaction
  split_ifs <;> rfl

theorem MainPanel_incKey_settings (ext : Extern) (st : State) (mode : IncType) (ch : ℤ) :
    (MainPanel_incKey ext st mode ch).1.settings = st.settings := by
  unfold MainPanel_incKey
  dsimp only
  split <;> rfl

/-- The incremental mode never asks to quit. -/
theorem MainPanel_incKey_not_quits (ext : Extern) (st : State) (mode : IncType) (ch : ℤ) :
    ¬Quits (MainPanel_incKey ext st mode ch).2 := by
  unfold MainPanel_incKey
  dsimp only
  split <;> dsimp only [Action_follow] <;> split <;> decide

/-- **Only `actionQuit` ends the loop.**  In every state and whatever the collaborators do, a
handler's reaction has `HTOP_QUIT` set exactly when the handler is `actionQuit`. -/
theorem action_run_quits_iff (ext : Extern) (st : State) (a : Htop_Action) :
    Quits (a.run ext st).2 ↔ a = .actionQuit := by
  cases a
  case actionQuit => exact iff_of_true (show Quits HTOP_QUIT by decide) rfl
  all_goals refine iff_of_false ?_ nofun
  all_goals simp only [Htop_Action.run, actionTag, actionExpandOrCollapseAllBranches,
    actionExpandOrCollapse, actionSetSortColumn, actionIncSearch, actionHelp, actionSetup,
    Action_follow, actionToggleUserlandThreads, actionInvertSortOrder, actionToggleKernelThreads,
    actionSortByMemory, actionSortByPID, actionSortByCPU, actionSortByTime, actionSortBy,
    Action_setSortKey, actionUntagAll, actionTogglePauseProcessUpdate, actionLowerPriority,
    actionHigherPriority, actionChangePriority, actionRedraw, actionCollapseIntoParent,
    actionIncFilter, actionSetAffinity, actionTagAllChildren, actionShowEnvScreen, actionKill,
    actionLsof, actionToggleMergedCommand, actionToggleProgramPath, actionStrace,
    actionToggleTreeView, actionFilterByUser, actionShowCommandScreen, actionShowLocks,
    actionExpandCollapseOrSortColumn, actionInfoScreen, actionToggle]
  all_goals (repeat' split) <;> (try dsimp only) <;> decide

/-- **What one event can do.**  Either it does not end the loop and leaves the settings as
they were, or with `changed` set; or it is a key of the key table other than Escape that
reached the main panel with no incremental mode active, and the event is that key's handler,
run on a state with the same settings, followed by its reaction. -/
theorem mainStep_cases (keys : ℤ → Option Htop_Action) (ext : Extern) (st : State) (ch : ℤ) :
    ¬Quits (mainStep keys ext st ch).2 ∧
        ((mainStep keys ext st ch).1.settings = st.settings ∨
          (mainStep keys ext st ch).1.settings = { st.settings with changed := true }) ∨
      ∃ a st₀, keys ch = some a ∧ st.inc.active = none ∧ ch ≠ ERR ∧ ch ≠ 27 ∧
        st₀.settings = st.settings ∧
        mainStep keys ext st ch = (applyReaction (a.run ext st₀).1 (a.run ext st₀).2,
          (a.run ext st₀).2) := by
  have hok : ¬Quits HTOP_OK := by decide
  have hsave : ∀ (s : State) (r : ℕ), s.settings = st.settings →
      (applyReaction s r).settings = st.settings ∨
        (applyReaction s r).settings = { st.settings with changed := true } := by
    intro s r hs
    rw [applyReaction_settings, hs]
    split_ifs
    · exact .inr rfl
    · exact .inl rfl
  unfold mainStep
  dsimp only
  by_cases herr : ch = ERR
  · rw [if_pos herr]
    exact .inl ⟨hok, .inl rfl⟩
  rw [if_neg herr]
  unfold MainPanel_eventHandler
  split
  · rename_i mode hmode
    exact .inl ⟨MainPanel_incKey_not_quits _ _ _ _,
      hsave _ _ (MainPanel_incKey_settings _ _ _ _)⟩
  · rename_i hnone
    by_cases hesc : ch = 27
    · rw [if_pos hesc]
      exact .inl ⟨hok, .inl rfl⟩
    rw [if_neg hesc]
    split
    · rename_i a ha
      exact .inr ⟨a, { st with mainPanel := ext.rebuildPanel st }, ha, hnone, herr, hesc, rfl, rfl⟩
    · split
      · exact .inl ⟨hok, .inl rfl⟩
      · exact .inl ⟨hok, hsave _ _ rfl⟩

/-! ## Settings changes along the loop -/

/-- The contract of the setup screens (`Action_runSetup`): the settings they leave differ
from those they were given only with `changed` set, as the display options and colours pages
do. -/
def SetupFlags (ext : Extern) : Prop := ∀ s, ext.runSetup s ≠ s → (ext.runSetup s).changed = true

/-- An event flags its change of the settings: its key is not bound to `actionSetup`, or the
setup screens it may open keep their contract. -/
def KeyFlags (keys : ℤ → Option Htop_Action) (e : Extern × ℤ) : Prop :=
  keys e.2 ≠ some .actionSetup ∨ SetupFlags e.1

/-- After a handler and its reaction, the settings are as before or `changed` is set. -/
theorem applyReaction_flagged {st st' : State} {reaction : ℕ}
    (h : SettingsChangeFlagged st.settings st'.settings reaction) :
    (applyReaction st' reaction).settings = st.settings ∨
      (applyReaction st' reaction).settings.changed = true := by
  rw [applyReaction_settings]
  split_ifs with hs
  · exact .inr rfl
  · by_cases hne : st'.settings = st.settings
    · exact .inl hne
    · exact .inr ((h hne).resolve_right hs)

/-- One event flags its change of the settings. -/
theorem mainStep_flagged {keys : ℤ → Option Htop_Action} {ext : Extern} {ch : ℤ}
    (h : KeyFlags keys (ext, ch)) (st : State) :
    (mainStep keys ext st ch).1.settings = st.settings ∨
      (mainStep keys ext st ch).1.settings.changed = true := by
  rcases mainStep_cases keys ext st ch with ⟨-, heq | heq⟩ | ⟨a, st₀, ha, -, -, -, hst₀, heq⟩
  · exact .inl heq
  · exact .inr (by rw [heq])
  · rw [heq, ← hst₀]
    refine applyReaction_flagged ?_
    by_cases hsetup : a = .actionSetup
    · subst hsetup
      have hext : SetupFlags ext := h.resolve_left fun h' => h' ha
      exact fun hne => .inl (hext _ hne)
    · exact action_run_flagged ext st₀ a hsetup

/-- **No settings change goes unflagged over a run.**  Over any events each of which flags
its change, the settings end as they started or with `changed` set. -/
theorem runKeys_flagged (keys : ℤ → Option Htop_Action) :
    ∀ (st : State) (events : List (Extern × ℤ)), (∀ e ∈ events, KeyFlags keys e) →
      (runKeys keys st events).1.settings = st.settings ∨
        (runKeys keys st events).1.settings.changed = true
  | _, [], _ => .inl rfl
  | st, (ext, ch) :: events, h => by
    have hstep := mainStep_flagged (h _ (List.mem_cons_self _ _)) st
    rcases runKeys_flagged keys _ events fun e he => h e (List.mem_cons_of_mem _ he) with
      hrest | hrest
    · rw [runKeys, hrest]
      exact hstep
    · exact .inr hrest

/-- **No lost settings update along the main loop.**  Over any sequence of keys, none bound
by `Action_setBindings` to `actionSetup`, and whatever the collaborators do at each key: if
the settings end different from how they started, then `changed` is set at the end or some
handler on the way returned `HTOP_SAVE_SETTINGS`. -/
theorem runKeys_settings_flagged (st : State) (events : List (Extern × ℤ))
    (hsetup : ∀ e ∈ events, Action_setBindings (fun _ => none) e.2 ≠ some .actionSetup) :
    (runKeys (Action_setBindings fun _ => none) st events).1.settings ≠ st.settings →
      (runKeys (Action_setBindings fun _ => none) st events).1.settings.changed = true ∨
        ∃ reaction ∈ (runKeys (Action_setBindings fun _ => none) st events).2,
          SavesSettings reaction :=
  fun hne => .inl ((runKeys_flagged _ st events fun e he => .inl (hsetup e he)).resolve_left hne)

/-- Pressing `t` and then `q` on the idle state: the tree view setting changes, and the
change is flagged. -/
theorem runKeys_settings_flagged_treeView :
    (∀ e ∈ [(idleExtern, key 't'), (idleExtern, key 'q')],
        Action_setBindings (fun _ => none) e.2 ≠ some .actionSetup) ∧
      ((runKeys (Action_setBindings fun _ => none) idleState
          [(idleExtern, key 't'), (idleExtern, key 'q')]).1.settings ≠ idleState.settings →
        (runKeys (Action_setBindings fun _ => none) idleState
          [(idleExtern, key 't'), (idleExtern, key 'q')]).1.settings.changed = true ∨
          ∃ reaction ∈ (runKeys (Action_setBindings fun _ => none) idleState
            [(idleExtern, key 't'), (idleExtern, key 'q')]).2, SavesSettings reaction) :=
  ⟨by decide, runKeys_settings_flagged idleState _ (by decide)⟩

/-- **The main loop is a run up to its first quit.**  The state the main loop ends in is the
state the run of some prefix of its events ends in: the events up to the first that quits,
or all of them. -/
theorem mainLoop_eq_runKeys (keys : ℤ → Option Htop_Action) :
    ∀ (st : State) (events : List (Extern × ℤ)),
      ∃ pre, pre <+: events ∧ mainLoop keys st events = (runKeys keys st pre).1
  | st, [] => ⟨[], List.prefix_rfl, rfl⟩
  | st, (ext, ch) :: events => by
    by_cases hq : Quits (mainStep keys ext st ch).2
    · exact ⟨[(ext, ch)], List.cons_prefix_cons.mpr ⟨rfl, List.nil_prefix⟩, by
        simp only [mainLoop, runKeys, if_pos hq]⟩
    · obtain ⟨pre, hpre, heq⟩ := mainLoop_eq_runKeys keys (mainStep keys ext st ch).1 events
      exact ⟨(ext, ch) :: pre, List.cons_prefix_cons.mpr ⟨rfl, hpre⟩, by
        simp only [mainLoop, runKeys, if_neg hq, heq]⟩

/-- **The main loop loses no update.**  Over any keys of any key table, whatever the
collaborators do, provided the setup screens keep their contract: the settings end as they
started, or with `changed` set. -/
theorem mainLoop_settings (keys : ℤ → Option Htop_Action) (st : State)
    (events : List (Extern × ℤ)) (hext : ∀ e ∈ events, SetupFlags e.1) :
    (mainLoop keys st events).settings = st.settings ∨
      (mainLoop keys st events).settings.changed = true := by
  obtain ⟨pre, hpre, heq⟩ := mainLoop_eq_runKeys keys st events
  rw [heq]
  exact runKeys_flagged keys st pre fun e he => .inr (hext e (hpre.subset he))

/-! ## Ending the loop -/

/-- **When the loop ends.**  An event ends the main loop exactly when no incremental mode is
active, it is a key and not Escape, and the key table binds it to `actionQuit`: while a
search or filter is active, `q` is text for it. -/
theorem mainStep_quits_iff (keys : ℤ → Option Htop_Action) (ext : Extern) (st : State)
    (ch : ℤ) :
    Quits (mainStep keys ext st ch).2 ↔
      st.inc.active = none ∧ ch ≠ ERR ∧ ch ≠ 27 ∧ keys ch = some .actionQuit := by
  constructor
  · intro hq
    rcases mainStep_cases keys ext st ch with ⟨hn, -⟩ | ⟨a, st₀, ha, hinc, herr, hesc, -, heq⟩
    · exact absurd hq hn
    · rw [heq] at hq
      exact ⟨hinc, herr, hesc, (action_run_quits_iff ext st₀ a).mp hq ▸ ha⟩
  · rintro ⟨hinc, herr, hesc, hq⟩
    have hstep : (mainStep keys ext st ch).2 = HTOP_QUIT := by
      simp only [mainStep, MainPanel_eventHandler, if_neg herr, if_neg hesc, hq, hinc,
        Htop_Action.run, actionQuit]
    rw [hstep]
    decide

/-- **Keys other than quit never end a session.**  Over keys none of which is bound to
`actionQuit`, the main loop runs through all of them: running them and then more keys is
running the more keys from where they left. -/
theorem mainLoop_append (keys : ℤ → Option Htop_Action) (st : State)
    (pre post : List (Extern × ℤ)) (hpre : ∀ e ∈ pre, keys e.2 ≠ some .actionQuit) :
    mainLoop keys st (pre ++ post) = mainLoop keys (mainLoop keys st pre) post := by
  induction pre generalizing st with
  | nil => rfl
  | cons e pre ih =>
    obtain ⟨ext, ch⟩ := e
    have hq : ¬Quits (mainStep keys ext st ch).2 := fun h =>
      hpre _ (List.mem_cons_self _ _) ((mainStep_quits_iff keys ext st ch).mp h).2.2.2
    simp only [List.cons_append, mainLoop, if_neg hq]
    exact ih _ fun e he => hpre e (List.mem_cons_of_mem _ he)

/-- Toggling the tree view does not end the loop: `t` then `q` runs both keys. -/
theorem mainLoop_append_treeView :
    (∀ e ∈ [(idleExtern, key 't')],
        (Action_setBindings fun _ => none) e.2 ≠ some .actionQuit) ∧
      mainLoop (Action_setBindings fun _ => none) idleState
          ([(idleExtern, key 't')] ++ [(idleExtern, key 'q')]) =
        mainLoop (Action_setBindings fun _ => none)
          (mainLoop (Action_setBindings fun _ => none) idleState [(idleExtern, key 't')])
          [(idleExtern, key 'q')] :=
  ⟨by decide, mainLoop_append _ idleState _ _ (by decide)⟩

/-- A quit key that reaches the main panel with no incremental mode active ends the loop:
what comes after it is never run. -/
theorem mainLoop_quit (keys : ℤ → Option Htop_Action) (st : State) (ext : Extern) {ch : ℤ}
    (hq : keys ch = some .actionQuit) (hch : ch ≠ ERR ∧ ch ≠ 27) (hinc : st.inc.active = none)
    (post : List (Extern × ℤ)) :
    mainLoop keys st ((ext, ch) :: post) = (mainStep keys ext st ch).1 := by
  have h := (mainStep_quits_iff keys ext st ch).mpr ⟨hinc, hch.1, hch.2, hq⟩
  simp only [mainLoop, if_pos h]

/-- With a search active, `q` is typed into it and the loop goes on. -/
example : ¬Quits (mainStep (Action_setBindings fun _ => none) idleExtern
    { idleState with inc := ⟨some .INC_SEARCH, "", ""⟩ } (key 'q')).2 := by
  decide

end Htop

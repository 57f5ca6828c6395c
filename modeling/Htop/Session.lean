/-
# A session: the command line, the main loop and the settings file

`CommandLine_run` (`src/CommandLine.c`, lines 265–372) writes the flags into the settings,
starts the main loop (`MainLoop.lean`) on the state it builds, and when the loop ends writes
the settings file if `settings->changed` is set, which is "consumed by the surrounding driver
to decide whether to persist" (spec §6).

Main results:

* `CommandLine_session_no_lost_update` : every change made during a session is written to
  the settings file at exit;
* `CommandLine_session_writes_overrides` : a session without the setup screens that writes
  the settings file writes the colour scheme and the delay of the command line.
-/
import Htop.MainLoop
import Htop.CommandLine

namespace Htop

/-! ## The session -/

/-- Modelled from the spec: `IncSet_setFilter` commits a filter text. -/
def IncSet_setFilter (inc : IncSet) (filter : String) : IncSet := { inc with filter := filter }

/-- `setCommFilter(state, &commFilter)`: the filter of `-F`. -/
def setCommFilter (st : State) (commFilter : String) : State :=
  let inc := IncSet_setFilter st.inc commFilter
  { st with inc := inc, incFilter := IncSet_filter inc }

/-- What `CommandLine_run` does around the main loop, from the flags `parseArguments`
returned and the state it builds on the settings file: the flags written into the settings,
the filter of `-F`, every branch collapsed when the settings say so, the main loop over the
keys, and the settings `Settings_write` writes at the end when they are `changed` (`none`:
the file is not written).  `Settings_setSortKey` is `Settings.c`'s. -/
def CommandLine_session (Settings_setSortKey : Settings → ℤ → Settings)
    (flags : CommandLineSettings) (st : State) (events : List (Extern × ℤ)) :
    State × Option Settings :=
  let st := { st with settings := CommandLine_applyFlags Settings_setSortKey flags st.settings }
  let st := match flags.commFilter with
    | some commFilter => setCommFilter st commFilter
    | none => st
  let st := if st.settings.flag .allBranchesCollapsed then ProcessList_collapseAllBranches st
    else st
  let st := mainLoop (Action_setBindings fun _ => none) st events
  (st, if st.settings.changed then some st.settings else none)

/-- The settings `CommandLine_session` starts the main loop with are those the flags made. -/
theorem CommandLine_session_eq (Settings_setSortKey : Settings → ℤ → Settings)
    (flags : CommandLineSettings) (st : State) (events : List (Extern × ℤ)) :
    ∃ st₀, st₀.settings = CommandLine_applyFlags Settings_setSortKey flags st.settings ∧
      CommandLine_session Settings_setSortKey flags st events =
        (mainLoop (Action_setBindings fun _ => none) st₀ events,
          if (mainLoop (Action_setBindings fun _ => none) st₀ events).settings.changed then
            some (mainLoop (Action_setBindings fun _ => none) st₀ events).settings
          else none) := by
  unfold CommandLine_session
  refine ⟨_, ?_, rfl⟩
  split_ifs <;> split <;> rfl

/-! ## No lost settings update -/

/-- **No lost settings update over a session.**  For every flags, settings file, keys and
behaviour of the collaborators, provided the setup screens keep their contract: either the
settings the session ends with are written to the settings file, or nothing is written and
they are the settings the command line started the main loop with. -/
theorem CommandLine_session_no_lost_update (Settings_setSortKey : Settings → ℤ → Settings)
    (flags : CommandLineSettings) (st : State) (events : List (Extern × ℤ))
    (hext : ∀ e ∈ events, SetupFlags e.1) :
    (CommandLine_session Settings_setSortKey flags st events).2 =
        some (CommandLine_session Settings_setSortKey flags st events).1.settings ∨
      (CommandLine_session Settings_setSortKey flags st events).2 = none ∧
        (CommandLine_session Settings_setSortKey flags st events).1.settings =
          CommandLine_applyFlags Settings_setSortKey flags st.settings := by
  obtain ⟨st₀, hst₀, heq⟩ := CommandLine_session_eq Settings_setSortKey flags st events
  rw [heq]
  dsimp only
  split_ifs with hc
  · exact .inl rfl
  · rcases mainLoop_settings _ st₀ events hext with h | h
    · exact .inr ⟨rfl, h.trans hst₀⟩
    · exact absurd h hc

/-- `htop`, then `t` and `q`: the session ends with its settings written. -/
theorem CommandLine_session_no_lost_update_treeView :
    (∀ e ∈ [(idleExtern, key 't'), (idleExtern, key 'q')], SetupFlags e.1) ∧
      ((CommandLine_session (fun s _ => s) CommandLineSettings.initial idleState
          [(idleExtern, key 't'), (idleExtern, key 'q')]).2 =
          some (CommandLine_session (fun s _ => s) CommandLineSettings.initial idleState
            [(idleExtern, key 't'), (idleExtern, key 'q')]).1.settings ∨
        (CommandLine_session (fun s _ => s) CommandLineSettings.initial idleState
            [(idleExtern, key 't'), (idleExtern, key 'q')]).2 = none ∧
          (CommandLine_session (fun s _ => s) CommandLineSettings.initial idleState
            [(idleExtern, key 't'), (idleExtern, key 'q')]).1.settings =
            CommandLine_applyFlags (fun s _ => s) CommandLineSettings.initial idleState.settings) :=
  have hsetup : ∀ e ∈ [(idleExtern, key 't'), (idleExtern, key 'q')], SetupFlags e.1 := by
    simp [SetupFlags, idleExtern]
  ⟨hsetup, CommandLine_session_no_lost_update _ _ _ _ hsetup⟩

/-! ## The command line's settings are written back -/

/-- Two settings with the same colour scheme and integer options. -/
def SameDisplay (s s' : Settings) : Prop := s'.colorScheme = s.colorScheme ∧ s'.number = s.number

theorem SameDisplay.of_eq {s s' : Settings} (h : s' = s) : SameDisplay s s' := h ▸ ⟨rfl, rfl⟩

theorem SameDisplay.trans {s s' s'' : Settings} (h₁ : SameDisplay s s') (h₂ : SameDisplay s' s'') :
    SameDisplay s s'' :=
  ⟨h₂.1.trans h₁.1, h₂.2.trans h₁.2⟩

/-- The collaborators of a key keep the colour scheme and the integer options:
`Settings_setSortKey` and `Settings_invertSortOrder` (`Settings.c`) change the sort fields
only. -/
def KeepsDisplay (ext : Extern) : Prop :=
  (∀ s k, SameDisplay s (ext.Settings_setSortKey s k)) ∧
    ∀ s, SameDisplay s (ext.Settings_invertSortOrder s)

theorem actionSetSortColumn_sameDisplay {ext : Extern} (hext : KeepsDisplay ext) (st : State) :
    SameDisplay st.settings (actionSetSortColumn ext st).1.settings := by
  simp only [actionSetSortColumn]
  split
  · simpa [Action_setSortKey] using hext.1 st.settings _
  · exact .of_eq (by simp)

/-- Every handler but `actionSetup` keeps the colour scheme and the integer options, when its
collaborators do. -/
theorem action_run_sameDisplay {ext : Extern} (hext : KeepsDisplay ext) (st : State)
    {a : Htop_Action} (ha : a ≠ .actionSetup) : SameDisplay st.settings (a.run ext st).1.settings := by
  cases a
  case actionSetup => exact absurd rfl ha
  case actionKill => exact .of_eq (actionKill_settings ext st)
  case actionSetAffinity => exact .of_eq (actionSetAffinity_settings ext st)
  case actionFilterByUser => exact .of_eq (actionFilterByUser_settings ext st)
  case actionTagAllChildren =>
    obtain ⟨rows, _h, heq, -⟩ := actionTagAllChildren_spec st
    exact .of_eq (by simp only [Htop_Action.run, heq])
  case actionSetSortColumn => exact actionSetSortColumn_sameDisplay hext st
  case actionExpandCollapseOrSortColumn =>
    simp only [Htop_Action.run, actionExpandCollapseOrSortColumn]
    split
    · exact .of_eq rfl
    · exact actionSetSortColumn_sameDisplay hext st
  case actionSortByPID | actionSortByMemory | actionSortByCPU | actionSortByTime =>
    exact hext.1 _ _
  case actionInvertSortOrder => exact hext.2 _
  all_goals simp only [Htop_Action.run, actionTag, actionCollapseIntoParent, actionShowEnvScreen,
    actionShowCommandScreen, actionLsof, actionStrace, actionShowLocks, actionInfoScreen,
    actionToggleTreeView, actionExpandOrCollapseAllBranches, ProcessList_expandTree,
    ProcessList_collapseAllBranches]
  all_goals first | exact ⟨rfl, rfl⟩ | (split <;> exact ⟨rfl, rfl⟩)

/-- The settings with `changed` set show the same. -/
theorem SameDisplay.changed (s : Settings) : SameDisplay s { s with changed := true } :=
  ⟨rfl, rfl⟩

/-- The reaction block keeps the colour scheme and the integer options. -/
theorem applyReaction_sameDisplay (st : State) (reaction : ℕ) :
    SameDisplay st.settings (applyReaction st reaction).settings := by
  rw [applyReaction_settings]
  split_ifs
  · exact .changed _
  · exact .of_eq rfl

/-- One event whose key is not bound to `actionSetup`, with collaborators that keep the colour
scheme and the integer options, keeps them. -/
theorem mainStep_sameDisplay {keys : ℤ → Option Htop_Action} {ext : Extern} {ch : ℤ}
    (hsetup : keys ch ≠ some .actionSetup) (hext : KeepsDisplay ext) (st : State) :
    SameDisplay st.settings (mainStep keys ext st ch).1.settings := by
  rcases mainStep_cases keys ext st ch with ⟨-, heq | heq⟩ | ⟨a, st₀, ha, -, -, -, hst₀, heq⟩
  · exact .of_eq heq
  · exact heq ▸ .changed _
  · rw [heq, ← hst₀]
    exact (action_run_sameDisplay hext st₀ fun h => hsetup (h ▸ ha)).trans
      (applyReaction_sameDisplay _ _)

/-- Over keys none of which is bound to `actionSetup`, whose collaborators keep the colour
scheme and the integer options, a run keeps them. -/
theorem runKeys_sameDisplay (keys : ℤ → Option Htop_Action) :
    ∀ (st : State) (events : List (Extern × ℤ)),
      (∀ e ∈ events, keys e.2 ≠ some .actionSetup ∧ KeepsDisplay e.1) →
      SameDisplay st.settings (runKeys keys st events).1.settings
  | _, [], _ => .of_eq rfl
  | st, (_, _) :: events, h =>
    (mainStep_sameDisplay (h _ (List.mem_cons_self _ _)).1 (h _ (List.mem_cons_self _ _)).2
      st).trans (runKeys_sameDisplay keys _ events fun e he => h e (List.mem_cons_of_mem _ he))

/-- The main loop, a run up to its first quit, keeps them too. -/
theorem mainLoop_sameDisplay (keys : ℤ → Option Htop_Action) (st : State)
    (events : List (Extern × ℤ))
    (h : ∀ e ∈ events, keys e.2 ≠ some .actionSetup ∧ KeepsDisplay e.1) :
    SameDisplay st.settings (mainLoop keys st events).settings := by
  obtain ⟨pre, hpre, heq⟩ := mainLoop_eq_runKeys keys st events
  rw [heq]
  exact runKeys_sameDisplay keys st pre fun e he => h e (hpre.subset he)

/-- The delay after the command line: that of `-d`, the file's otherwise, when
`Settings_setSortKey` keeps the integer options. -/
theorem CommandLine_applyFlags_delay {Settings_setSortKey : Settings → ℤ → Settings}
    (hsort : ∀ s k, (Settings_setSortKey s k).number = s.number) (flags : CommandLineSettings)
    (settings : Settings) :
    (CommandLine_applyFlags Settings_setSortKey flags settings).number .delay =
      if flags.delay ≠ -1 then flags.delay else settings.number .delay := by
  unfold CommandLine_applyFlags
  simp only [apply_ite Settings.number, hsort, Settings.setFlag, Settings.setNumber,
    Function.update_apply, ite_self]
  split_ifs <;> simp_all

/-- **The command line's settings are written back.**  For every flags and settings file, and
every session whose keys open no setup screen and whose collaborators keep the colour scheme
and the integer options (and `Settings_setSortKey` of the command line too): if the session
writes the settings file at exit, it writes the colour scheme of the command line
(monochrome with `-C`) and its delay (that of `-d`), whatever the file had. -/
theorem CommandLine_session_writes_overrides {Settings_setSortKey : Settings → ℤ → Settings}
    (hsort : ∀ s k, SameDisplay s (Settings_setSortKey s k)) (flags : CommandLineSettings)
    (st : State) (events : List (Extern × ℤ))
    (hkeys : ∀ e ∈ events,
      (Action_setBindings fun _ => none) e.2 ≠ some .actionSetup ∧ KeepsDisplay e.1)
    {written : Settings} (hw : (CommandLine_session Settings_setSortKey flags st events).2 =
      some written) :
    written.colorScheme =
        (if !flags.useColors then COLORSCHEME_MONOCHROME else st.settings.colorScheme) ∧
      written.number .delay =
        if flags.delay ≠ -1 then flags.delay else st.settings.number .delay := by
  obtain ⟨st₀, hst₀, heq⟩ := CommandLine_session_eq Settings_setSortKey flags st events
  rw [heq] at hw
  dsimp only at hw
  split_ifs at hw
  cases hw
  obtain ⟨hcs, hnum⟩ := mainLoop_sameDisplay _ st₀ events hkeys
  rw [hcs, hnum, hst₀, CommandLine_applyFlags_colorScheme_eq (fun s k => (hsort s k).1),
    CommandLine_applyFlags_delay (fun s k => (hsort s k).2)]
  exact ⟨rfl, rfl⟩

/-- Collaborators that keep the settings keep their colour scheme and integer options. -/
theorem keepsDisplay_idleExtern : KeepsDisplay idleExtern :=
  ⟨fun _ _ => ⟨rfl, rfl⟩, fun _ => ⟨rfl, rfl⟩⟩

/-- `htop -C -d 5`, then `t` and `q`: the tree view change writes the settings file, and
with it the monochrome scheme and the delay 5. -/
theorem CommandLine_session_writes_overrides_monochrome :
    ∃ written, (CommandLine_session (fun s _ => s)
        { CommandLineSettings.initial with useColors := false, delay := 5 } idleState
        [(idleExtern, key 't'), (idleExtern, key 'q')]).2 = some written ∧
      written.colorScheme = COLORSCHEME_MONOCHROME ∧ written.number .delay = 5 := by
  have hkeys : ∀ e ∈ [(idleExtern, key 't'), (idleExtern, key 'q')],
      (Action_setBindings fun _ => none) e.2 ≠ some .actionSetup ∧ KeepsDisplay e.1 := by
    intro e he
    simp only [List.mem_cons, List.mem_singleton, List.not_mem_nil, or_false] at he
    rcases he with rfl | rfl <;> exact ⟨by decide, keepsDisplay_idleExtern⟩
  obtain ⟨written, hw⟩ : ∃ written, (CommandLine_session (fun s _ => s)
      { CommandLineSettings.initial with useColors := false, delay := 5 } idleState
      [(idleExtern, key 't'), (idleExtern, key 'q')]).2 = some written := ⟨_, rfl⟩
  have := CommandLine_session_writes_overrides (fun _ _ => ⟨rfl, rfl⟩) _ _ _ hkeys hw
  exact ⟨written, hw, this.1, this.2⟩

end Htop

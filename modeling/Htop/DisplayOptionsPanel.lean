/-
# The display options page

`DisplayOptionsPanel` (`src/DisplayOptionsPanel.c`) lists option items bound to the fields
of the settings: a check item toggles a boolean setting, a number item steps an integer
setting.  When the handler handles a key it sets `settings->changed`.

The option items are in `OptionItem.c`, which is not in `src/`.  A check item bound to a
setting toggles it (`CheckItem_toggle` negates the flag it points to); what a number item
writes is a parameter `numberOp`, so the results below hold for every behaviour of the
number items.  `OptionItem_kind(NULL)` dereferences a missing row: the handler returns
`none` there.  The header recomputation that follows a handled key is layout, and the item
labels are read by nothing modelled: both are left out.

Main results:

* `DisplayOptionsPanel_eventHandler_frame` : a handled key writes the setting of the
  selected row alone, and sets `changed`; an ignored key changes nothing;
* `DisplayOptionsPanel_eventHandler_isSome` : the handler reaches a missing row only on a
  panel without rows, which `DisplayOptionsPanel_new` never builds.
-/
import Htop.Panel
import Htop.Settings

namespace Htop

/-! ## Option items -/

/-- A row of the display options page: a check item bound to a boolean setting
(`CheckItem_newByRef(text, &settings->ref)`), or a number item bound to an integer setting
with its scale and bounds (`NumberItem_newByRef(text, &settings->ref, scale, min, max)`). -/
inductive OptionItem
  | check (ref : BoolOption)
  | number (ref : IntOption) (scale min max : ℤ)
  deriving DecidableEq, Repr

/-- The operations of a number item (`NumberItem_toggle`, `NumberItem_decrease`,
`NumberItem_increase`). -/
inductive NumberItemOp
  | toggle
  | decrease
  | increase
  deriving DecidableEq, Repr

/-- `CheckItem_toggle` on a check item bound to `ref`. -/
def CheckItem_toggle (settings : Settings) (ref : BoolOption) : Settings := settings.toggle ref

/-- A number item operation on an item bound to `ref`: the setting becomes the value
`numberOp` gives for the operation, the item's scale and bounds, and the current value. -/
def NumberItem_apply (numberOp : NumberItemOp → ℤ → ℤ → ℤ → ℤ → ℤ) (op : NumberItemOp)
    (settings : Settings) (ref : IntOption) (scale min max : ℤ) : Settings :=
  settings.setNumber ref (numberOp op scale min max (settings.number ref))

/-- The setting an option item is bound to. -/
def OptionItem.writes : OptionItem → BoolOption ⊕ IntOption
  | .check ref => .inl ref
  | .number ref _ _ _ => .inr ref

/-! ## The panel -/

/-- A `DisplayOptionsPanel`: its panel and the settings its items are bound to. -/
structure DisplayOptionsPanel where
  super : Panel OptionItem
  settings : Settings

/-- The rows of `DisplayOptionsPanel_new`, built with `BUILD_WITH_CPU_TEMP` or not and
with `HAVE_LIBHWLOC` or not. -/
def displayOptionsItems (cpuTemp hwloc : Bool) : List OptionItem :=
  [.check .treeView, .check .treeViewAlwaysByPID, .check .allBranchesCollapsed,
    .check .shadowOtherUsers, .check .hideKernelThreads, .check .hideUserlandThreads,
    .check .highlightThreads, .check .showThreadNames, .check .showProgramPath,
    .check .highlightBaseName, .check .showMergedCommand, .check .findCommInCmdline,
    .check .stripExeFromCmdline, .check .highlightMegabytes, .check .headerMargin,
    .check .detailedCPUTime, .check .countCPUsFromOne, .check .updateProcessNames,
    .check .accountGuestInCPUMeter, .check .showCPUUsage, .check .showCPUFrequency] ++
  (if cpuTemp then [.check .showCPUTemperature, .check .degreeFahrenheit] else []) ++
  [.check .enableMouse, .number .delay (-1) 1 255, .check .highlightChanges,
    .number .highlightDelaySecs 0 1 (24 * 60 * 60), .number .hideFunctionBar 0 0 2] ++
  (if hwloc then [.check .topologyAffinity] else [])

/-- `DisplayOptionsPanel_new(settings, scr)`. -/
def DisplayOptionsPanel_new (cpuTemp hwloc : Bool) (settings : Settings) : DisplayOptionsPanel :=
  ⟨(displayOptionsItems cpuTemp hwloc).foldl Panel_add (Panel_new 1), settings⟩

/-- The keys that operate the selected row: newline, carriage return, `KEY_ENTER`,
`KEY_MOUSE`, `KEY_RECLICK` and space. -/
def displayOptionsConfirmKeys : List ℤ :=
  [0x0a, 0x0d, KEY_ENTER, KEY_MOUSE, KEY_RECLICK, (' '.toNat : ℤ)]

/-- The `switch (ch)` of `DisplayOptionsPanel_eventHandler`: the settings after the write it
makes on the selected row, and the result; `none` when it reads the kind of a missing row. -/
def displayOptionsSwitch (numberOp : NumberItemOp → ℤ → ℤ → ℤ → ℤ → ℤ) (settings : Settings)
    (selected : Option OptionItem) (ch : ℤ) : Option (Settings × ℕ) :=
  if ch ∈ displayOptionsConfirmKeys then
    match selected with
    | some (.check ref) => some (CheckItem_toggle settings ref, HANDLED)
    | some (.number ref scale min max) =>
      some (NumberItem_apply numberOp .toggle settings ref scale min max, HANDLED)
    | none => none
  else if ch = ('-'.toNat : ℤ) then
    match selected with
    | some (.number ref scale min max) =>
      some (NumberItem_apply numberOp .decrease settings ref scale min max, HANDLED)
    | some (.check _) => some (settings, IGNORED)
    | none => none
  else if ch = ('+'.toNat : ℤ) then
    match selected with
    | some (.number ref scale min max) =>
      some (NumberItem_apply numberOp .increase settings ref scale min max, HANDLED)
    | some (.check _) => some (settings, IGNORED)
    | none => none
  else some (settings, IGNORED)

/-- `DisplayOptionsPanel_eventHandler(super, ch)`: the switch, then `changed` set when the
key was handled. -/
def DisplayOptionsPanel_eventHandler (numberOp : NumberItemOp → ℤ → ℤ → ℤ → ℤ → ℤ)
    (this : DisplayOptionsPanel) (ch : ℤ) : Option (DisplayOptionsPanel × ℕ) :=
  (displayOptionsSwitch numberOp this.settings (Panel_getSelected this.super) ch).map fun r =>
    ({ this with settings := if r.2 = HANDLED then { r.1 with changed := true } else r.1 }, r.2)

/-! ## What a key writes -/

/-- `s'` differs from `s` at most in the setting `w` and in `changed`. -/
def WritesOnly (w : BoolOption ⊕ IntOption) (s s' : Settings) : Prop :=
  s'.colorScheme = s.colorScheme ∧ s'.fields = s.fields ∧
    (∀ o, Sum.inl o ≠ w → s'.flag o = s.flag o) ∧ (∀ o, Sum.inr o ≠ w → s'.number o = s.number o)

variable {numberOp : NumberItemOp → ℤ → ℤ → ℤ → ℤ → ℤ}

/-- What the switch does: it ignores the key and keeps the settings, or handles it with a
write to the setting of the selected row alone.  It reaches a missing row only for the keys
it handles. -/
theorem displayOptionsSwitch_cases {settings : Settings} {selected : Option OptionItem}
    {ch : ℤ} {r : Settings × ℕ} (h : displayOptionsSwitch numberOp settings selected ch = some r) :
    r = (settings, IGNORED) ∨
      r.2 = HANDLED ∧ ∃ item, selected = some item ∧ WritesOnly item.writes settings r.1 := by
  have hcheck : ∀ ref, WritesOnly (.inl ref) settings (CheckItem_toggle settings ref) :=
    fun ref => ⟨rfl, rfl, fun o ho => by simp [CheckItem_toggle, Settings.toggle,
      Settings.setFlag, Function.update_noteq (fun h => ho (congrArg Sum.inl h))], fun _ _ => rfl⟩
  have hnumber : ∀ op ref scale min max,
      WritesOnly (.inr ref) settings (NumberItem_apply numberOp op settings ref scale min max) :=
    fun op ref _ _ _ => ⟨rfl, rfl, fun _ _ => rfl, fun o ho => by simp [NumberItem_apply,
      Settings.setNumber, Function.update_noteq (fun h => ho (congrArg Sum.inr h))]⟩
  unfold displayOptionsSwitch at h
  split_ifs at h <;> (try split at h) <;> cases h
  all_goals first
    | exact .inl rfl
    | exact .inr ⟨rfl, _, rfl, hcheck _⟩
    | exact .inr ⟨rfl, _, rfl, hnumber _ _ _ _ _⟩

/-- **A display option key writes the selected row's setting alone.**  A key the handler
completes either is ignored and changes nothing, or is handled: `changed` is set and no
field of the settings but the one the selected row is bound to changes.  The rows and the
selection never change. -/
theorem DisplayOptionsPanel_eventHandler_frame (this : DisplayOptionsPanel) (ch : ℤ)
    {r : DisplayOptionsPanel × ℕ} (h : DisplayOptionsPanel_eventHandler numberOp this ch = some r) :
    r.1.super = this.super ∧
      (r = (this, IGNORED) ∨ r.2 = HANDLED ∧ r.1.settings.changed = true ∧
        ∃ item, Panel_getSelected this.super = some item ∧
          WritesOnly item.writes this.settings r.1.settings) := by
  obtain ⟨s, hs, rfl⟩ := Option.map_eq_some'.mp h
  refine ⟨rfl, ?_⟩
  rcases displayOptionsSwitch_cases hs with rfl | ⟨hres, item, hsel, hw⟩
  · exact .inl (by simp [HANDLED, IGNORED])
  · refine .inr ⟨hres, by simp [hres], item, hsel, ?_⟩
    simpa [hres, WritesOnly] using hw

/-- Space on the first row of the display options page toggles the tree view and sets
`changed`. -/
example : (DisplayOptionsPanel_eventHandler (fun _ _ _ _ v => v)
    (DisplayOptionsPanel_new false false ⟨fun _ => false, fun _ => 0, 0, [], false⟩)
    (' '.toNat : ℤ)).map (fun r => (r.1.settings.flag .treeView, r.1.settings.changed, r.2)) =
      some (true, true, HANDLED) := by
  decide

/-- The display options handler reaches a missing row only on a panel without rows. -/
theorem DisplayOptionsPanel_eventHandler_isSome (this : DisplayOptionsPanel) (ch : ℤ)
    (hne : this.super.items ≠ []) :
    (DisplayOptionsPanel_eventHandler numberOp this ch).isSome := by
  obtain ⟨item, hitem⟩ := Panel_getSelected_isSome this.super hne
  unfold DisplayOptionsPanel_eventHandler displayOptionsSwitch
  rw [hitem]
  split_ifs <;> cases item <;> rfl

theorem displayOptionsItems_ne_nil (cpuTemp hwloc : Bool) :
    displayOptionsItems cpuTemp hwloc ≠ [] := by
  simp [displayOptionsItems]

/-- The panel `DisplayOptionsPanel_new` builds has the rows of the build. -/
theorem DisplayOptionsPanel_new_items (cpuTemp hwloc : Bool) (settings : Settings) :
    (DisplayOptionsPanel_new cpuTemp hwloc settings).super.items =
      displayOptionsItems cpuTemp hwloc := by
  cases cpuTemp <;> cases hwloc <;> rfl

end Htop

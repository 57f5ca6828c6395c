/-
# Settings and the reaction bitmask

The part of `Settings` that the handlers of `src/` read or write, and the `Htop_Reaction`
bitmask a handler returns to the main loop.  `Settings.h` and `Action.h` are not part of
`src/`; their fields and flag values are modelled from the spec (§6 "Settings store",
"Reaction bitmask values").

The boolean options are named by `BoolOption`, so that a `CheckItem` that refers to a field
(`CheckItem_newByRef("…", &(settings->treeView))` in `DisplayOptionsPanel_new`) refers to a
constructor, and the actions that toggle one field are one definition with the field as a
parameter.
-/
import Mathlib.Logic.Function.Basic
import Mathlib.Data.Int.Defs

namespace Htop

/-! ## Options -/

/-- The boolean fields of `Settings` that a handler or a `CheckItem` of `src/` refers to. -/
inductive BoolOption
  | treeView
  | treeViewAlwaysByPID
  | allBranchesCollapsed
  | shadowOtherUsers
  | hideKernelThreads
  | hideUserlandThreads
  | highlightThreads
  | showThreadNames
  | showProgramPath
  | highlightBaseName
  | showMergedCommand
  | findCommInCmdline
  | stripExeFromCmdline
  | highlightMegabytes
  | headerMargin
  | detailedCPUTime
  | countCPUsFromOne
  | updateProcessNames
  | accountGuestInCPUMeter
  | showCPUUsage
  | showCPUFrequency
  | showCPUTemperature
  | degreeFahrenheit
  | enableMouse
  | highlightChanges
  | topologyAffinity
  deriving DecidableEq, Repr

/-- The integer fields of `Settings` that a `NumberItem` of `src/` refers to. -/
inductive IntOption
  | delay
  | highlightDelaySecs
  | hideFunctionBar
  deriving DecidableEq, Repr

/-- Modelled from the spec: the settings store (`Settings.h`, not in `src/`), "a mutable
struct of named boolean/integer/enum options" with "a `changed` flag the core sets whenever
an option is modified".  `fields` is the 0-terminated column array `actionSetSortColumn`
walks. -/
structure Settings where
  flag : BoolOption → Bool
  number : IntOption → ℤ
  colorScheme : ℤ
  fields : List ℕ
  changed : Bool

/-- One boolean option set to `b`. -/
def Settings.setFlag (s : Settings) (o : BoolOption) (b : Bool) : Settings :=
  { s with flag := Function.update s.flag o b }

/-- One boolean option negated: `settings->o = !settings->o`. -/
def Settings.toggle (s : Settings) (o : BoolOption) : Settings := s.setFlag o (!s.flag o)

/-- One integer option set to `v`. -/
def Settings.setNumber (s : Settings) (o : IntOption) (v : ℤ) : Settings :=
  { s with number := Function.update s.number o v }

@[simp] theorem Settings.setFlag_flag_self (s : Settings) (o : BoolOption) (b : Bool) :
    (s.setFlag o b).flag o = b := by simp [Settings.setFlag]

@[simp] theorem Settings.setFlag_changed (s : Settings) (o : BoolOption) (b : Bool) :
    (s.setFlag o b).changed = s.changed := rfl

@[simp] theorem Settings.toggle_changed (s : Settings) (o : BoolOption) :
    (s.toggle o).changed = s.changed := rfl

@[simp] theorem Settings.setNumber_changed (s : Settings) (o : IntOption) (v : ℤ) :
    (s.setNumber o v).changed = s.changed := rfl

@[simp] theorem Settings.setFlag_colorScheme (s : Settings) (o : BoolOption) (b : Bool) :
    (s.setFlag o b).colorScheme = s.colorScheme := rfl

@[simp] theorem Settings.setNumber_colorScheme (s : Settings) (o : IntOption) (v : ℤ) :
    (s.setNumber o v).colorScheme = s.colorScheme := rfl

/-! ## Reactions -/

/-- Modelled from the spec: the `Htop_Reaction` values of `Action.h` (not in `src/`), which
the spec calls "independent flags; any subset may be set together". -/
def HTOP_OK : ℕ := 0x00
/-- See `HTOP_OK`. -/
def HTOP_REFRESH : ℕ := 0x01
/-- See `HTOP_OK`. -/
def HTOP_RECALCULATE : ℕ := 0x02
/-- See `HTOP_OK`. -/
def HTOP_SAVE_SETTINGS : ℕ := 0x04
/-- See `HTOP_OK`. -/
def HTOP_KEEP_FOLLOWING : ℕ := 0x08
/-- See `HTOP_OK`. -/
def HTOP_QUIT : ℕ := 0x10
/-- See `HTOP_OK`. -/
def HTOP_REDRAW_BAR : ℕ := 0x20
/-- See `HTOP_OK`. -/
def HTOP_UPDATE_PANELHDR : ℕ := 0x40

/-- `reaction & HTOP_SAVE_SETTINGS`: the reaction asks the driver to persist the settings. -/
def SavesSettings (reaction : ℕ) : Prop := reaction &&& HTOP_SAVE_SETTINGS ≠ 0

instance (reaction : ℕ) : Decidable (SavesSettings reaction) :=
  inferInstanceAs (Decidable (_ ≠ _))

/-- The frame law for `Settings`: a step from `before` to `after` that changes any field
either leaves `changed` set or returns `HTOP_SAVE_SETTINGS`. -/
def SettingsChangeFlagged (before after : Settings) (reaction : ℕ) : Prop :=
  after ≠ before → after.changed = true ∨ SavesSettings reaction

theorem SettingsChangeFlagged.of_eq {s s' : Settings} {r : ℕ} (h : s' = s) :
    SettingsChangeFlagged s s' r :=
  fun hne => absurd h hne

theorem SettingsChangeFlagged.of_saves {s s' : Settings} {r : ℕ} (h : SavesSettings r) :
    SettingsChangeFlagged s s' r := fun _ => Or.inr h

end Htop

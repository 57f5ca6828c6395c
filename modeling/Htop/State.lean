/-
# The application state and the main-panel services

The `State` the handlers of `src/Action.c` receive, reduced to the fields they read or
write, and the services of `MainPanel.c` they call.  What a handler does to a process
through the backend (send a signal, renice, set an affinity) is an `Effect`, appended to the
state's log in the order it happens, so that "which processes did this action signal" is a
question about the log.

`MainPanel.c`, `IncSet.c` and the backend are not part of `src/`; their parts used here are
modelled from the spec (§3 "IncSet mode", §4.6 "Failure semantics", §6 "Process backend").

Main facts:

* `MainPanel_foreachProcess_eq` : the service only appends to the log;
* `MainPanel_foreachTargets_of_untagged` : with no row tagged, it acts on the selected row
  alone.
-/
import Htop.Process

namespace Htop

/-! ## Effects on processes -/

/-- An affinity: the CPUs a process may run on (`Affinity`, Affinity.c). -/
structure Affinity where
  cpus : List ℕ
  deriving DecidableEq, Repr

/-- An operation a handler performs on a process through the backend: `kill(2)`,
`setpriority(2)`, `sched_setaffinity(2)`. -/
inductive Effect
  | sendSignal (pid signal : ℤ)
  | changePriorityBy (pid delta : ℤ)
  | setAffinity (pid : ℤ) (affinity : Affinity)
  deriving DecidableEq, Repr

/-- The process an effect acts on. -/
def Effect.pid : Effect → ℤ
  | .sendSignal pid _ => pid
  | .changePriorityBy pid _ => pid
  | .setAffinity pid _ => pid

/-- `Process_sendSignal(p, sgn)`. -/
def Process_sendSignal (sgn : ℤ) (p : Process) : Effect := .sendSignal p.pid sgn

/-- `Process_changePriorityBy(p, delta)`. -/
def Process_changePriorityBy (delta : ℤ) (p : Process) : Effect := .changePriorityBy p.pid delta

/-- `Affinity_set(p, affinity)`. -/
def Affinity_set (affinity : Affinity) (p : Process) : Effect := .setAffinity p.pid affinity

/-! ## Incremental search and filter -/

/-- The two modes of an `IncSet`. -/
inductive IncType
  | INC_SEARCH
  | INC_FILTER
  deriving DecidableEq, Repr

/-- Modelled from the spec: the `IncSet` of the main panel (IncSet.c, not in `src/`), "`{INACTIVE,
SEARCH, FILTER}` plus an accumulated text buffer"; `none` is INACTIVE. -/
structure IncSet where
  active : Option IncType
  search : String
  filter : String

/-- Modelled from the spec: `IncSet_activate` enters a mode. -/
def IncSet_activate (inc : IncSet) (type : IncType) : IncSet := { inc with active := some type }

/-- Modelled from the spec: `IncSet_reset` clears the text of a mode. -/
def IncSet_reset (inc : IncSet) : IncType → IncSet
  | .INC_SEARCH => { inc with search := "" }
  | .INC_FILTER => { inc with filter := "" }

/-- Modelled from the spec: `IncSet_filter`, the filter text while there is one. -/
def IncSet_filter (inc : IncSet) : Option String := if inc.filter = "" then none else some inc.filter

/-! ## The state -/

/-- The `State` a handler receives: the settings, the main panel and its `IncSet`, the
fields of the process list the handlers use (`following`, `userId`, `incFilter`,
`cpuCount`), the pause flag, and the effects performed so far, oldest first. -/
structure State where
  settings : Settings
  mainPanel : Panel Process
  inc : IncSet
  following : ℤ
  userId : UInt32
  incFilter : Option String
  cpuCount : ℕ
  pauseProcessUpdate : Bool
  log : List Effect

/-! ## Main-panel services -/

/-- Modelled from the spec: `MainPanel_selectedPid` (MainPanel.c), the pid of the selected
row, `-1` when there is none. -/
def MainPanel_selectedPid (panel : Panel Process) : ℤ :=
  match Panel_getSelected panel with
  | some p => p.pid
  | none => -1

/-- The rows `MainPanel_foreachProcess` acts on: the tagged rows in panel order, or the
selected row when none is tagged. -/
def MainPanel_foreachTargets (panel : Panel Process) : List Process :=
  let tagged := panel.items.filter (·.tag)
  if tagged.isEmpty then (Panel_getSelected panel).toList else tagged

/-- Modelled from the spec: `MainPanel_foreachProcess` (MainPanel.c, not in `src/`) applies
the operation to every tagged row, or, when no row is tagged, to the selected row if there is
one (the help text's "kill process/tagged processes"); a failure on one row does not stop the
others (§4.6).  Returns the state after the operations and whether any row was tagged. -/
def MainPanel_foreachProcess (st : State) (fn : Process → Effect) : State × Bool :=
  ({ st with log := st.log ++ (MainPanel_foreachTargets st.mainPanel).map fn },
    !(st.mainPanel.items.filter (·.tag)).isEmpty)

theorem MainPanel_foreachProcess_eq (st : State) (fn : Process → Effect) :
    (MainPanel_foreachProcess st fn).1 =
      { st with log := st.log ++ (MainPanel_foreachTargets st.mainPanel).map fn } := rfl

@[simp] theorem MainPanel_foreachProcess_settings (st : State) (fn : Process → Effect) :
    (MainPanel_foreachProcess st fn).1.settings = st.settings := rfl

/-- With no row tagged, `MainPanel_foreachProcess` acts on the selected row alone. -/
theorem MainPanel_foreachTargets_of_untagged {panel : Panel Process}
    (h : ∀ p ∈ panel.items, p.tag = false) :
    MainPanel_foreachTargets panel = (Panel_getSelected panel).toList := by
  have : panel.items.filter (·.tag) = [] := List.filter_eq_nil_iff.mpr (by simpa using h)
  simp [MainPanel_foreachTargets, this]

end Htop

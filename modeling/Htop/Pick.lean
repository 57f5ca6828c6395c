/-
# The pick-from-list protocol

`Action_pickFromVector` (`src/Action.c`, lines 43–80) runs a nested screen with a list panel
beside the main panel and returns the list's selected row when the user confirms with Enter
on the list.  In follow mode it first records the pid of the main panel's selected process
(pinning it as `pl->following` unless something is already followed), and at confirmation
returns the row only if the main panel's selection is still that process.

The nested `ScreenManager_run` is not part of `src/`: whatever it does is one `PickRun`, so
every result below holds for every behaviour of the nested loop.

Main facts:

* `Action_pickFromVector_fst` : the pick leaves the state as the nested loop left the main
  panel, `following` restored;
* `Action_pickFromVector_follow` : in follow mode a picked row comes with the main panel
  still on the process the pick started on;
* `Action_pickFromVector_eq_none_of_lost` : and otherwise nothing is picked;
* `Action_pickFromVector_mem` : a picked row is a row of the list.
-/
import Htop.State

namespace Htop

/-- What the nested `ScreenManager_run` of a pick leaves behind: the main panel after the
refresh ticks it ran (rebuilt, re-sorted or re-filtered, its selection moved), the selection
of the list panel, whether the list had the focus when the loop ended (`panelFocus ==
list`), and the key that ended it. -/
structure PickRun where
  mainPanel : Panel Process
  listSelected : ℕ
  focusList : Bool
  ch : ℤ

variable {α : Type}

/-- `Action_pickFromVector(st, list, x, followProcess)`: the state after the pick and the
picked row (`NULL` is `none`).  The moves and resizes of the main panel are layout only. -/
def Action_pickFromVector (st : State) (list : Panel α) (followProcess : Bool) (run : PickRun) :
    State × Option α :=
  let pid := if followProcess then MainPanel_selectedPid st.mainPanel else -1
  let unfollow := followProcess && st.following == -1
  let st := if unfollow then { st with following := pid } else st
  let st := { st with mainPanel := run.mainPanel }
  let list := Panel_setSelected list run.listSelected
  let st := if unfollow then { st with following := -1 } else st
  if run.focusList && run.ch == 13 then
    if followProcess then
      match Panel_getSelected st.mainPanel with
      | some selected => if selected.pid == pid then (st, Panel_getSelected list) else (st, none)
      | none => (st, none)
    else (st, Panel_getSelected list)
  else (st, none)

/-- The pick in one piece: the state the nested loop left, `following` as it was, and the
list's selected row when the user confirmed on the list and, in follow mode, the main panel
is still on the process the pick started on. -/
theorem Action_pickFromVector_eq (st : State) (list : Panel α) (followProcess : Bool)
    (run : PickRun) :
    Action_pickFromVector st list followProcess run =
      ({ st with mainPanel := run.mainPanel },
        if run.focusList && run.ch == 13 then
          if followProcess then
            if (Panel_getSelected run.mainPanel).map (·.pid) = some (MainPanel_selectedPid st.mainPanel)
            then Panel_getSelected (Panel_setSelected list run.listSelected) else none
          else Panel_getSelected (Panel_setSelected list run.listSelected)
        else none) := by
  unfold Action_pickFromVector
  cases followProcess <;> by_cases hf : st.following = -1 <;>
    by_cases hc : (run.focusList && run.ch == 13) = true <;>
    simp only [hf, hc, Bool.false_and, Bool.true_and, beq_self_eq_true, beq_iff_eq, if_true,
      if_false, Bool.false_eq_true] <;>
    (try split) <;> (try split_ifs) <;> simp_all

/-- After the pick the state is the one the nested loop left, `following` as it was. -/
theorem Action_pickFromVector_fst (st : State) (list : Panel α) (followProcess : Bool)
    (run : PickRun) :
    (Action_pickFromVector st list followProcess run).1 = { st with mainPanel := run.mainPanel } := by
  rw [Action_pickFromVector_eq]

@[simp] theorem Action_pickFromVector_settings (st : State) (list : Panel α) (followProcess : Bool)
    (run : PickRun) : (Action_pickFromVector st list followProcess run).1.settings = st.settings := by
  rw [Action_pickFromVector_fst]

/-- **The follow check.**  In follow mode a row is picked only if, when the user confirms,
the main panel's selected process has the pid the pick started on. -/
theorem Action_pickFromVector_follow {st : State} {list : Panel α} {run : PickRun} {x : α}
    (h : (Action_pickFromVector st list true run).2 = some x) :
    ∃ selected, Panel_getSelected run.mainPanel = some selected ∧
      selected.pid = MainPanel_selectedPid st.mainPanel := by
  rw [Action_pickFromVector_eq] at h
  simp only [if_true] at h
  split_ifs at h with _ hsel
  obtain ⟨selected, hs, hpid⟩ := Option.map_eq_some'.mp hsel
  exact ⟨selected, hs, hpid⟩

/-- Losing the followed process cancels the pick. -/
theorem Action_pickFromVector_eq_none_of_lost {st : State} {list : Panel α} {run : PickRun}
    (h : ∀ selected, Panel_getSelected run.mainPanel = some selected →
      selected.pid ≠ MainPanel_selectedPid st.mainPanel) :
    (Action_pickFromVector st list true run).2 = none := by
  cases hx : (Action_pickFromVector st list true run).2 with
  | none => rfl
  | some x =>
    obtain ⟨selected, hsel, hpid⟩ := Action_pickFromVector_follow hx
    exact absurd hpid (h selected hsel)

/-- A picked row is the list's selected row. -/
theorem Action_pickFromVector_snd_eq_some {st : State} {list : Panel α} {followProcess : Bool}
    {run : PickRun} {x : α} (h : (Action_pickFromVector st list followProcess run).2 = some x) :
    Panel_getSelected (Panel_setSelected list run.listSelected) = some x := by
  rw [Action_pickFromVector_eq] at h
  split_ifs at h <;> exact h

/-- A picked row is a row of the list. -/
theorem Action_pickFromVector_mem {st : State} {list : Panel α} {followProcess : Bool}
    {run : PickRun} {x : α} (h : (Action_pickFromVector st list followProcess run).2 = some x) :
    x ∈ list.items := by
  have hx := Action_pickFromVector_snd_eq_some h
  rw [Panel_getSelected_eq] at hx
  exact List.getElem?_mem hx

end Htop

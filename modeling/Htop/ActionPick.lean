/-
# The handlers that pick from a list

`actionSetSortColumn`, `actionKill`, `actionSetAffinity` and `actionFilterByUser`
(`src/Action.c`, lines 166–356) build a list panel, run the pick protocol of `Pick.lean` on
it, and act on the row picked.  `actionKill` and `actionSetAffinity` pick in follow mode and
then act through `MainPanel_foreachProcess`.

Main results:

* `pick_follow_acts_on_started_process` : with no row tagged, a kill or an affinity change
  reaches only the process selected when the action started, and losing that process
  cancels both;
* `actionFilterByUser_userId` : what the user filter is set to, for each outcome of the
  pick.
-/
import Htop.Action
import Mathlib.Data.List.Sort
import Mathlib.Data.String.Basic

namespace Htop

/-! ## Sort column -/

/-- The sort panel `actionSetSortColumn` builds: a row per column of `settings->fields` up to
its terminating 0, the active sort key's row selected. -/
def sortPanelOf (ext : Extern) (settings : Settings) : Panel ListItem :=
  (settings.fields.takeWhile (· != 0)).enum.foldl
    (fun p (i, f) =>
      let p := Panel_add p (ListItem_new (ext.fieldName f) f)
      if (f : ℤ) = ext.Settings_getActiveSortKey settings then Panel_setSelected p i else p)
    (Panel_new 0)

/-- `actionSetSortColumn`; its re-sort while updates are paused is the main loop's next
rebuild (`Extern.rebuildPanel`). -/
def actionSetSortColumn (ext : Extern) (st : State) : State × ℕ :=
  let reaction := HTOP_OK
  let r := Action_pickFromVector st (sortPanelOf ext st.settings) false ext.run
  let (st, reaction) := match r.2 with
    | some field =>
      let s := Action_setSortKey ext r.1.settings field.key
      ({ r.1 with settings := s.1 }, reaction ||| s.2)
    | none => (r.1, reaction)
  (st, reaction ||| HTOP_REFRESH ||| HTOP_REDRAW_BAR ||| HTOP_UPDATE_PANELHDR)

/-- `actionExpandCollapseOrSortColumn`. -/
def actionExpandCollapseOrSortColumn (ext : Extern) (st : State) : State × ℕ :=
  if st.settings.flag .treeView then actionExpandOrCollapse st else actionSetSortColumn ext st

/-! ## Kill and affinity -/

/-- `SignalsPanel_new` (SignalsPanel.c), with the rows it builds. -/
def SignalsPanel_new (ext : Extern) : Panel ListItem := ⟨ext.signals, 0, 0, "", .inr rfl⟩

/-- `actionKill`: pick a signal, following the selected process, and send it to the tagged
processes or the selected one.  The row with key 0 is "Cancel". -/
def actionKill (ext : Extern) (st : State) : State × ℕ :=
  let r := Action_pickFromVector st (SignalsPanel_new ext) true ext.run
  let st := match r.2 with
    | some sgn =>
      if sgn.key != 0 then (MainPanel_foreachProcess r.1 (Process_sendSignal sgn.key)).1 else r.1
    | none => r.1
  (st, HTOP_REFRESH ||| HTOP_REDRAW_BAR ||| HTOP_UPDATE_PANELHDR)

/-- `AffinityPanel_new` (AffinityPanel.c), with the rows it builds. -/
def AffinityPanel_new (ext : Extern) (affinity : Affinity) : Panel ℕ :=
  ⟨ext.affinityRows affinity, 0, 0, "", .inr rfl⟩

/-- `actionSetAffinity`, built with `HAVE_LINUX_AFFINITY`: pick CPUs, following the selected
process, and set the affinity of the tagged processes or the selected one. -/
def actionSetAffinity (ext : Extern) (st : State) : State × ℕ :=
  if st.cpuCount = 1 then (st, HTOP_OK)
  else
    match Panel_getSelected st.mainPanel with
    | none => (st, HTOP_OK)
    | some p =>
      match ext.Affinity_get p with
      | none => (st, HTOP_OK)
      | some affinity1 =>
        let r := Action_pickFromVector st (AffinityPanel_new ext affinity1) true ext.run
        let st := if r.2.isSome then
            (MainPanel_foreachProcess r.1 (Affinity_set ext.AffinityPanel_getAffinity)).1
          else r.1
        (st, HTOP_REFRESH ||| HTOP_REDRAW_BAR ||| HTOP_UPDATE_PANELHDR)

/-- A follow-mode pick that returned a row, followed by `MainPanel_foreachProcess` on the
state it left, acts only on the started process when no row is tagged. -/
theorem foreach_after_follow_pick {α : Type} {st : State} {list : Panel α} {run : PickRun}
    {x : α} (hx : (Action_pickFromVector st list true run).2 = some x)
    (huntagged : ∀ p ∈ run.mainPanel.items, p.tag = false) (fn : Process → Effect)
    (hfn : ∀ p, (fn p).pid = p.pid) :
    ∃ sent, (MainPanel_foreachProcess (Action_pickFromVector st list true run).1 fn).1.log =
      st.log ++ sent ∧ ∀ e ∈ sent, e.pid = MainPanel_selectedPid st.mainPanel := by
  obtain ⟨selected, hsel, hpid⟩ := Action_pickFromVector_follow hx
  refine ⟨[fn selected], ?_, ?_⟩
  · rw [MainPanel_foreachProcess_eq, Action_pickFromVector_fst]
    simp [MainPanel_foreachTargets_of_untagged huntagged, hsel]
  · simp [hfn, hpid]

theorem actionKill_log (ext : Extern) (st : State) :
    (actionKill ext st).1.log = st.log ∨
      ∃ sgn, (Action_pickFromVector st (SignalsPanel_new ext) true ext.run).2 = some sgn ∧
        (actionKill ext st).1 =
          (MainPanel_foreachProcess (Action_pickFromVector st (SignalsPanel_new ext) true ext.run).1
            (Process_sendSignal sgn.key)).1 := by
  cases hx : (Action_pickFromVector st (SignalsPanel_new ext) true ext.run).2 with
  | none => exact .inl (by simp [actionKill, hx, Action_pickFromVector_fst])
  | some sgn =>
    by_cases hk : sgn.key = 0
    · exact .inl (by simp [actionKill, hx, hk, Action_pickFromVector_fst])
    · exact .inr ⟨sgn, rfl, by simp [actionKill, hx, hk]⟩

theorem actionSetAffinity_log (ext : Extern) (st : State) :
    (actionSetAffinity ext st).1.log = st.log ∨
      ∃ affinity1 x, (Action_pickFromVector st (AffinityPanel_new ext affinity1) true ext.run).2 =
          some x ∧
        (actionSetAffinity ext st).1 =
          (MainPanel_foreachProcess
            (Action_pickFromVector st (AffinityPanel_new ext affinity1) true ext.run).1
            (Affinity_set ext.AffinityPanel_getAffinity)).1 := by
  unfold actionSetAffinity
  split
  · exact .inl rfl
  · split
    · exact .inl rfl
    · split
      · exact .inl rfl
      · rename_i affinity1 _
        cases hx : (Action_pickFromVector st (AffinityPanel_new ext affinity1) true ext.run).2 with
        | none => exact .inl (by simp [hx, Action_pickFromVector_fst])
        | some x => exact .inr ⟨affinity1, x, hx, by simp [hx]⟩

/-- **Acting on the followed process.**  For every state and every behaviour of the nested
pick loop: when no main-panel row is tagged as the pick returns, every process that
`actionKill` signals or whose affinity `actionSetAffinity` sets has the pid
`MainPanel_selectedPid` returned when the action started; and when, at confirmation, the
main panel's selected process has another pid or there is none, the pick returns nothing and
neither action acts on any process. -/
theorem pick_follow_acts_on_started_process (ext : Extern) (st : State) :
    ((∀ p ∈ ext.run.mainPanel.items, p.tag = false) →
      (∃ sent, (actionKill ext st).1.log = st.log ++ sent ∧
        ∀ e ∈ sent, e.pid = MainPanel_selectedPid st.mainPanel) ∧
      (∃ sent, (actionSetAffinity ext st).1.log = st.log ++ sent ∧
        ∀ e ∈ sent, e.pid = MainPanel_selectedPid st.mainPanel)) ∧
    ((∀ selected, Panel_getSelected ext.run.mainPanel = some selected →
        selected.pid ≠ MainPanel_selectedPid st.mainPanel) →
      (∀ (α : Type) (list : Panel α), (Action_pickFromVector st list true ext.run).2 = none) ∧
      (actionKill ext st).1.log = st.log ∧ (actionSetAffinity ext st).1.log = st.log) := by
  refine ⟨fun hu => ⟨?_, ?_⟩, fun hlost => ⟨fun _ _ => Action_pickFromVector_eq_none_of_lost hlost, ?_, ?_⟩⟩
  · rcases actionKill_log ext st with h | ⟨sgn, hx, h⟩
    · exact ⟨[], by simp [h], by simp⟩
    · rw [h]
      exact foreach_after_follow_pick hx hu _ fun _ => rfl
  · rcases actionSetAffinity_log ext st with h | ⟨_, x, hx, h⟩
    · exact ⟨[], by simp [h], by simp⟩
    · rw [h]
      exact foreach_after_follow_pick hx hu _ fun _ => rfl
  · rcases actionKill_log ext st with h | ⟨sgn, hx, -⟩
    · exact h
    · simp [Action_pickFromVector_eq_none_of_lost hlost] at hx
  · rcases actionSetAffinity_log ext st with h | ⟨_, x, hx, -⟩
    · exact h
    · simp [Action_pickFromVector_eq_none_of_lost hlost] at hx

/-! ## User filter -/

/-- `(uid_t)-1`, "guaranteed to be an invalid uid_t" (`CommandLine.c`): no user filter. -/
def invalidUid : UInt32 := 0 - 1

/-- `Action_setUserOnly(userName, &userId)`: whether the name is a user of the password
database, and the uid it stores, `(uid_t)-1` when it is not. -/
def Action_setUserOnly (getpwnam : String → Option UInt32) (userName : String) : Bool × UInt32 :=
  match getpwnam userName with
  | some uid => (true, uid)
  | none => (false, invalidUid)

/-- A row of the users panel with its identity: the `allUsers` object `actionFilterByUser`
allocates, or a row `addUserToVector` allocated.  Telling them apart is the pointer
comparison `picked == allUsers`: a user row with the same text and key is still another
object. -/
inductive UserRow
  | allUsers
  | user (item : ListItem)
  deriving DecidableEq, Repr

/-- The label of a users-panel row. -/
def UserRow.value : UserRow → String
  | .allUsers => "Tüm Kullanıcılar"
  | .user item => item.value

/-- The `int` key `ListItem_new` receives for an (unsigned) uid. -/
def uidKey (uid : UInt32) : ℤ := Int.bmod uid.toNat 4294967296

/-- `addUserToVector(key, user, panel)`. -/
def addUserToVector (panel : Panel UserRow) (key : UInt32) (user : String) : Panel UserRow :=
  Panel_add panel (.user (ListItem_new user (uidKey key)))

/-- Modelled from the spec: `Vector_insertionSort` (Vector.c) with `ListItem_compare`
(ListItem.c), "a stable in-place reordering driven by an externally supplied ordering
function", here the labels' order. -/
def Vector_insertionSort (panel : Panel UserRow) : Panel UserRow :=
  panel.setItems (panel.items.insertionSort fun a b => a.value ≤ b.value)
    (List.length_insertionSort _ _)

/-- The users panel `actionFilterByUser` builds: a row per entry of the users table, sorted,
then the `allUsers` row in front. -/
def usersPanelOf (ext : Extern) : Panel UserRow :=
  Panel_insert (Vector_insertionSort (ext.users.foldl (fun p e => addUserToVector p e.1 e.2)
    (Panel_new 0))) 0 .allUsers

/-- `actionFilterByUser`. -/
def actionFilterByUser (ext : Extern) (st : State) : State × ℕ :=
  let r := Action_pickFromVector st (usersPanelOf ext) false ext.run
  let st := match r.2 with
    | some .allUsers => { r.1 with userId := invalidUid }
    | some (.user picked) => { r.1 with userId := (Action_setUserOnly ext.getpwnam picked.value).2 }
    | none => r.1
  (st, HTOP_REFRESH ||| HTOP_REDRAW_BAR ||| HTOP_UPDATE_PANELHDR)

/-- The user rows of the users panel are the rows `addUserToVector` made from the users
table. -/
theorem mem_usersPanelOf {ext : Extern} {item : ListItem}
    (h : UserRow.user item ∈ (usersPanelOf ext).items) :
    ∃ uid, (uid, item.value) ∈ ext.users ∧ item = ListItem_new item.value (uidKey uid) := by
  have hfold : ∀ (l : List (UInt32 × String)) (p : Panel UserRow),
      UserRow.user item ∈ (l.foldl (fun p e => addUserToVector p e.1 e.2) p).items →
        UserRow.user item ∈ p.items ∨ ∃ uid, (uid, item.value) ∈ l ∧
          item = ListItem_new item.value (uidKey uid) := by
    intro l
    induction l with
    | nil => exact fun _ h => .inl h
    | cons e l ih =>
      intro p h
      rcases ih _ h with h | ⟨uid, hmem, heq⟩
      · simp only [addUserToVector, Panel_add_items, List.mem_append, List.mem_singleton,
          UserRow.user.injEq] at h
        rcases h with h | rfl
        · exact .inl h
        · exact .inr ⟨e.1, by simp [ListItem_new], rfl⟩
      · exact .inr ⟨uid, List.mem_cons_of_mem _ hmem, heq⟩
  simp only [usersPanelOf, Panel_insert, Vector_insertionSort, Panel.setItems_items,
    List.insertIdx_zero, List.mem_cons, reduceCtorEq, false_or] at h
  rcases hfold _ _ ((List.perm_insertionSort _ _).mem_iff.mp h) with h | h
  · simp [Panel_new] at h
  · exact h

/-- **The user filter after a pick.**  For every users table, password database and outcome
of the pick: a cancelled pick leaves `userId` as it was, the "all users" row sets it to
`(uid_t)-1`, and a user row, which `addUserToVector` made from an entry `(uid, name)` of the
table, sets it to the uid the password database gives for `name`, or `(uid_t)-1` when it
gives none. -/
theorem actionFilterByUser_userId (ext : Extern) (st : State) :
    ((Action_pickFromVector st (usersPanelOf ext) false ext.run).2 = none →
      (actionFilterByUser ext st).1.userId = st.userId) ∧
    ((Action_pickFromVector st (usersPanelOf ext) false ext.run).2 = some .allUsers →
      (actionFilterByUser ext st).1.userId = invalidUid) ∧
    ∀ item, (Action_pickFromVector st (usersPanelOf ext) false ext.run).2 = some (.user item) →
      (∃ uid, (uid, item.value) ∈ ext.users ∧ item = ListItem_new item.value (uidKey uid)) ∧
      (actionFilterByUser ext st).1.userId = (ext.getpwnam item.value).getD invalidUid := by
  refine ⟨fun h => ?_, fun h => ?_, fun item h => ⟨mem_usersPanelOf (Action_pickFromVector_mem h), ?_⟩⟩
  · simp [actionFilterByUser, h, Action_pickFromVector_fst]
  · simp [actionFilterByUser, h]
  · simp only [actionFilterByUser, h, Action_setUserOnly]
    cases ext.getpwnam item.value <;> rfl

/-- A users table with one user, uid 1000 named "bob", whom the password database no longer
knows; the pick confirms the row after "all users". -/
def removedUserExtern : Extern where
  run := ⟨tagAfterTagState.mainPanel, 1, true, 13⟩
  signals := []
  users := [(1000, "bob")]
  getpwnam := fun _ => none
  Affinity_get := fun _ => none
  affinityRows := fun _ => []
  AffinityPanel_getAffinity := ⟨[]⟩
  fieldName := fun _ => ""
  Settings_getActiveSortKey := fun _ => 0
  Settings_setSortKey := fun s _ => s
  Settings_invertSortOrder := id
  runSetup := id
  rebuildPanel := State.mainPanel
  processText := fun _ => ""

/-- Picking the row `addUserToVector` made for uid 1000 does not set the filter to 1000:
the row's name is resolved again through the password database, which here has no such
user. -/
theorem actionFilterByUser_row_of_uid_not_set :
    (Action_pickFromVector tagAfterTagState (usersPanelOf removedUserExtern) false
        removedUserExtern.run).2 = some (.user (ListItem_new "bob" (uidKey 1000))) ∧
      (actionFilterByUser removedUserExtern tagAfterTagState).1.userId ≠ 1000 := by
  constructor
  · rfl
  · decide

end Htop

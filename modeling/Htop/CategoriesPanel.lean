/-
# The setup screen: categories and their pages

`Action_runSetup` (`src/Action.c`, lines 84–96) opens a screen whose first panel is the
`CategoriesPanel` (`src/CategoriesPanel.c`) and whose other panels are the page of the
selected category: the meters, the display options, the colours or the columns.
`CategoriesPanel_eventHandler` rebuilds the page whenever it handles an event.

The intended invariant is that the page shown is the page of the selected category.  The
handler reads the selection on entry and, for a navigation key, again after `Panel_onKey`;
for a printable character it does not.  `Panel_selectByTyping` moves the selection through
`Panel_setSelected`, which re-enters the handler with `EVENT_SET_SELECTED`; the inner call
builds the new category's page, and then the outer call, seeing `HANDLED`, rebuilds the page
of the selection it read on entry.

`ScreenManager.c` and the page panels are not in `src/`: a screen manager is the list of its
panels with their widths (spec §3, "ordered sequence of (panel, fixedWidthOrFill) pairs"), and
a page panel is its kind.

Main results:

* `CategoriesPanel_eventHandler_setSelected` : the re-entry `Panel_setSelected` makes is the
  handler's own `EVENT_SET_SELECTED` case;
* `CategoriesPanel_eventHandler_page` : after any event the screen shows the page of the new
  selection, except after a select-by-typing jump, where it shows the page of the selection
  before the event;
* `CategoriesPanel_eventHandler_onKey` : the screen manager's `Panel_onKey` on a key the
  handler leaves moves the selection only for the mouse wheel;
* `categoriesPanel_typing_shows_previous_page` : typing `R` on the setup screen as it opens
  selects "Renkler" but leaves the meters page on screen.
-/
import Htop.Panel

namespace Htop

/-! ## The screen manager -/

/-- The panels of the setup screen, by kind; a meters panel with its header. -/
inductive SetupPanel
  | CategoriesPanel
  | MetersPanel (header : String)
  | AvailableMetersPanel
  | DisplayOptionsPanel
  | ColorsPanel
  | ColumnsPanel
  | AvailableColumnsPanel
  deriving DecidableEq, Repr

/-- Modelled from the spec: a `ScreenManager` (ScreenManager.c), its panels with their widths
in order (`-1` fills the rest).  Focus and layout are left out. -/
structure ScreenManager where
  panels : List (SetupPanel × ℤ)
  deriving DecidableEq, Repr

/-- Modelled from the spec: `ScreenManager_add(scr, panel, size)` appends a panel. -/
def ScreenManager_add (scr : ScreenManager) (panel : SetupPanel) (size : ℤ) : ScreenManager :=
  ⟨scr.panels ++ [(panel, size)]⟩

/-- Modelled from the spec: `ScreenManager_remove(scr, idx)` takes out the panel at `idx`. -/
def ScreenManager_remove (scr : ScreenManager) (idx : ℕ) : ScreenManager :=
  ⟨scr.panels.eraseIdx idx⟩

/-- Modelled from the spec: `ScreenManager_size`. -/
def ScreenManager_size (scr : ScreenManager) : ℕ := scr.panels.length

/-- Removing the panel at index 1 `n` times drops `n` panels after the first. -/
theorem iterate_remove_one (x : SetupPanel × ℤ) (rest : List (SetupPanel × ℤ)) (n : ℕ) :
    ((fun scr => ScreenManager_remove scr 1)^[n] ⟨x :: rest⟩).panels = x :: rest.drop n := by
  induction n generalizing rest with
  | zero => rfl
  | succ n ih =>
    rw [Function.iterate_succ_apply]
    cases rest with
    | nil => simpa using ih []
    | cons y rest => simpa [ScreenManager_remove] using ih rest

/-! ## The categories panel -/

/-- A `CategoriesPanel`: its panel and the screen manager it rebuilds.  The settings, header
and process list it hands to the page panels are left out. -/
structure CategoriesPanel where
  super : Panel ListItem
  scr : ScreenManager

/-- `CategoriesPanel_new(scr, …)`: the four categories, as `Panel_init` makes a panel of
height 1 (the screen manager resizes it). -/
def CategoriesPanel_new (scr : ScreenManager) : CategoriesPanel where
  super := [ListItem_new "Metre" 0, ListItem_new "Görüntüleme seçenekleri" 0,
    ListItem_new "Renkler" 0, ListItem_new "Sütunlar" 0].foldl Panel_add (Panel_new 1)
  scr := scr

/-- `CategoriesPanel_makeMetersPage`. -/
def CategoriesPanel_makeMetersPage (this : CategoriesPanel) : CategoriesPanel :=
  let scr := ScreenManager_add this.scr (.MetersPanel "Sol sütun") 20
  let scr := ScreenManager_add scr (.MetersPanel "Sağ sütun") 20
  { this with scr := ScreenManager_add scr .AvailableMetersPanel (-1) }

/-- `CategoriesPanel_makeDisplayOptionsPage`. -/
def CategoriesPanel_makeDisplayOptionsPage (this : CategoriesPanel) : CategoriesPanel :=
  { this with scr := ScreenManager_add this.scr .DisplayOptionsPanel (-1) }

/-- `CategoriesPanel_makeColorsPage`. -/
def CategoriesPanel_makeColorsPage (this : CategoriesPanel) : CategoriesPanel :=
  { this with scr := ScreenManager_add this.scr .ColorsPanel (-1) }

/-- `CategoriesPanel_makeColumnsPage`. -/
def CategoriesPanel_makeColumnsPage (this : CategoriesPanel) : CategoriesPanel :=
  let scr := ScreenManager_add this.scr .ColumnsPanel 20
  { this with scr := ScreenManager_add scr .AvailableColumnsPanel (-1) }

/-- The `result == HANDLED` block of `CategoriesPanel_eventHandler`: every panel after the
first removed, then the page of `selected` added. -/
def CategoriesPanel_showPage (this : CategoriesPanel) (selected : ℕ) : CategoriesPanel :=
  let size := ScreenManager_size this.scr
  let this := { this with scr := (fun scr => ScreenManager_remove scr 1)^[size - 1] this.scr }
  match selected with
  | 0 => CategoriesPanel_makeMetersPage this
  | 1 => CategoriesPanel_makeDisplayOptionsPage this
  | 2 => CategoriesPanel_makeColorsPage this
  | 3 => CategoriesPanel_makeColumnsPage this
  | _ => this

/-- The handler's `EVENT_SET_SELECTED` case: show the page of the current selection. -/
def CategoriesPanel_onSetSelected (this : CategoriesPanel) : CategoriesPanel :=
  CategoriesPanel_showPage this (Panel_getSelectedIndex this.super)

/-- The keys `CategoriesPanel_eventHandler` hands to `Panel_onKey`. -/
def categoriesNavKeys : List ℤ :=
  [KEY_UP, KEY_CTRL 'P', KEY_DOWN, KEY_CTRL 'N', KEY_NPAGE, KEY_PPAGE, KEY_HOME, KEY_END]

/-- `CategoriesPanel_eventHandler(super, ch)`.  The page is rebuilt in each branch whose
result is `HANDLED`, for the `selected` that branch holds.  In the typing branch, the call
`Panel_setSelected` makes into this handler with `EVENT_SET_SELECTED` is
`CategoriesPanel_onSetSelected` (`CategoriesPanel_eventHandler_setSelected`). -/
def CategoriesPanel_eventHandler (this : CategoriesPanel) (ch : ℤ) : CategoriesPanel × ℕ :=
  let selected := Panel_getSelectedIndex this.super
  if ch = EVENT_SET_SELECTED then (CategoriesPanel_showPage this selected, HANDLED)
  else if ch ∈ categoriesNavKeys then
    let previous := selected
    let this := { this with super := (Panel_onKey this.super ch).1 }
    let selected := Panel_getSelectedIndex this.super
    if previous ≠ selected then (CategoriesPanel_showPage this selected, HANDLED)
    else (this, IGNORED)
  else if 0 < ch ∧ ch < 255 ∧ isgraph ch then
    let r := Panel_selectByTyping this.super (Char.ofNat ch.toNat)
    let this := { this with super := r.1 }
    let this := if r.2.1.isSome then CategoriesPanel_onSetSelected this else this
    let result := if r.2.2 = BREAK_LOOP then IGNORED else r.2.2
    if result = HANDLED then (CategoriesPanel_showPage this selected, result) else (this, result)
  else (this, IGNORED)

/-- The re-entry of `Panel_setSelected` is the handler itself at `EVENT_SET_SELECTED`. -/
theorem CategoriesPanel_eventHandler_setSelected (this : CategoriesPanel) :
    CategoriesPanel_eventHandler this EVENT_SET_SELECTED =
      (CategoriesPanel_onSetSelected this, HANDLED) := by
  simp [CategoriesPanel_eventHandler, CategoriesPanel_onSetSelected]

/-- The setup screen as `Action_runSetup` opens it: the categories panel, 16 wide, and the
meters page. -/
def Action_runSetup_start : CategoriesPanel :=
  let this := CategoriesPanel_new ⟨[]⟩
  CategoriesPanel_makeMetersPage { this with scr := ScreenManager_add this.scr .CategoriesPanel 16 }

/-! ## Pages -/

/-- The page of a category: the panels its `make…Page` function adds (none past the four
categories). -/
def categoryPage : ℕ → List (SetupPanel × ℤ)
  | 0 => [(.MetersPanel "Sol sütun", 20), (.MetersPanel "Sağ sütun", 20), (.AvailableMetersPanel, -1)]
  | 1 => [(.DisplayOptionsPanel, -1)]
  | 2 => [(.ColorsPanel, -1)]
  | 3 => [(.ColumnsPanel, 20), (.AvailableColumnsPanel, -1)]
  | _ => []

/-- The screen shows the categories panel and then the page of category `s`. -/
def ShowsPage (this : CategoriesPanel) (s : ℕ) : Prop :=
  this.scr.panels = (.CategoriesPanel, 16) :: categoryPage s

/-- The screen shows the page of the selected category. -/
def PageShown (this : CategoriesPanel) : Prop := ShowsPage this this.super.selected

instance (this : CategoriesPanel) (s : ℕ) : Decidable (ShowsPage this s) :=
  inferInstanceAs (Decidable (_ = _))

instance (this : CategoriesPanel) : Decidable (PageShown this) :=
  inferInstanceAs (Decidable (ShowsPage _ _))

/-- Rebuilding the page after the categories panel shows the page asked for. -/
theorem CategoriesPanel_showPage_shows {this : CategoriesPanel} {s : ℕ} (s' : ℕ)
    (h : ShowsPage this s) : ShowsPage (CategoriesPanel_showPage this s') s' := by
  obtain ⟨super, ⟨panels⟩⟩ := this
  simp only [ShowsPage] at h
  subst h
  unfold CategoriesPanel_showPage
  rcases s' with _ | _ | _ | _ | s' <;>
    simp [ShowsPage, categoryPage, ScreenManager_size, iterate_remove_one,
      CategoriesPanel_makeMetersPage, CategoriesPanel_makeDisplayOptionsPage,
      CategoriesPanel_makeColorsPage, CategoriesPanel_makeColumnsPage, ScreenManager_add]

@[simp] theorem CategoriesPanel_showPage_super (this : CategoriesPanel) (s : ℕ) :
    (CategoriesPanel_showPage this s).super = this.super := by
  unfold CategoriesPanel_showPage
  split <;> rfl

/-- Rebuilding for the current selection shows the page of the selection. -/
theorem CategoriesPanel_showPage_pageShown {this : CategoriesPanel} {s : ℕ}
    (h : ShowsPage this s) : PageShown (CategoriesPanel_showPage this this.super.selected) := by
  unfold PageShown
  rw [CategoriesPanel_showPage_super]
  exact CategoriesPanel_showPage_shows _ h

/-- The event is a printable character on which select-by-typing jumps. -/
def TypingJumps (this : CategoriesPanel) (ch : ℤ) : Prop :=
  ch ≠ EVENT_SET_SELECTED ∧ ch ∉ categoriesNavKeys ∧ (0 < ch ∧ ch < 255 ∧ isgraph ch) ∧
    (Panel_selectByTyping this.super (Char.ofNat ch.toNat)).2.1.isSome

instance (this : CategoriesPanel) (ch : ℤ) : Decidable (TypingJumps this ch) :=
  inferInstanceAs (Decidable (_ ∧ _ ∧ _ ∧ _))

/-- **The page after an event.**  From a screen that shows some page after the categories
panel, every event leaves the screen showing the page of the new selection (or the screen
and the selection as they were), except a select-by-typing jump, after which it shows the
page of the selection before the event. -/
theorem CategoriesPanel_eventHandler_page (this : CategoriesPanel) (s : ℕ)
    (h : ShowsPage this s) (ch : ℤ) :
    TypingJumps this ch ∧
        ShowsPage (CategoriesPanel_eventHandler this ch).1 this.super.selected ∨
      ¬TypingJumps this ch ∧
        ((CategoriesPanel_eventHandler this ch).1.scr = this.scr ∧
          (CategoriesPanel_eventHandler this ch).1.super.selected = this.super.selected ∨
        PageShown (CategoriesPanel_eventHandler this ch).1) := by
  unfold CategoriesPanel_eventHandler
  by_cases hset : ch = EVENT_SET_SELECTED
  · rw [if_pos hset]
    exact .inr ⟨fun hj => hj.1 hset, .inr (CategoriesPanel_showPage_pageShown h)⟩
  rw [if_neg hset]
  by_cases hnav : ch ∈ categoriesNavKeys
  · rw [if_pos hnav]
    refine .inr ⟨fun hj => hj.2.1 hnav, ?_⟩
    dsimp only
    split
    · exact .inr (CategoriesPanel_showPage_pageShown h)
    · rename_i hsame
      exact .inl ⟨rfl, (not_not.mp hsame).symm⟩
  rw [if_neg hnav]
  by_cases hg : 0 < ch ∧ ch < 255 ∧ isgraph ch
  · rw [if_pos hg]
    cases hj : (Panel_selectByTyping this.super (Char.ofNat ch.toNat)).2.1 with
    | none =>
      obtain ⟨hsel, hres⟩ := Panel_selectByTyping_of_none hj
      refine .inr ⟨fun hj' => absurd hj'.2.2.2 (by simp [hj]), .inl ?_⟩
      simp [hj, hres, hsel, HANDLED, IGNORED, BREAK_LOOP]
    | some i =>
      have hres := Panel_selectByTyping_of_some hj
      refine .inl ⟨⟨hset, hnav, hg, by simp [hj]⟩, ?_⟩
      simp only [hj, hres, Option.isSome_some, if_true, HANDLED, BREAK_LOOP]
      exact CategoriesPanel_showPage_shows _ (CategoriesPanel_showPage_shows _ h)
  · rw [if_neg hg]
    exact .inr ⟨fun hj => hg hj.2.2.1, .inl ⟨rfl, rfl⟩⟩

/-! ## The keys the handler leaves -/

/-- Of the keys `Panel_onKey` takes, the handler hands all to it but the mouse wheel. -/
theorem navTarget_of_not_mem_categoriesNavKeys {α : Type} (p : Panel α) {ch : ℤ}
    (hnav : ch ∉ categoriesNavKeys) (hwheel : ch ≠ KEY_WHEELUP ∧ ch ≠ KEY_WHEELDOWN) :
    navTarget p ch = none := by
  simp only [categoriesNavKeys, List.mem_cons, List.mem_singleton, List.not_mem_nil, or_false,
    not_or] at hnav
  simp [navTarget, hnav, hwheel]

/-- **The screen manager's `Panel_onKey` after the handler.**  For a key other than the mouse
wheel that the handler does not handle, the `Panel_onKey` the screen manager then runs on the
categories panel leaves it as the handler left it: a navigation key that did not move the
selection in the handler does not move it there either. -/
theorem CategoriesPanel_eventHandler_onKey (this : CategoriesPanel) {ch : ℤ}
    (hwheel : ch ≠ KEY_WHEELUP ∧ ch ≠ KEY_WHEELDOWN)
    (hres : (CategoriesPanel_eventHandler this ch).2 &&& HANDLED = 0) :
    (Panel_onKey (CategoriesPanel_eventHandler this ch).1.super ch).1 =
      (CategoriesPanel_eventHandler this ch).1.super := by
  by_cases hnav : ch ∈ categoriesNavKeys
  · have hset : ch ≠ EVENT_SET_SELECTED := by
      rintro rfl
      revert hnav
      decide
    revert hres
    simp only [CategoriesPanel_eventHandler, if_neg hset, if_pos hnav, Panel_getSelectedIndex]
    split
    · intro h
      exact absurd h (show HANDLED &&& HANDLED ≠ 0 by decide)
    · rename_i hsame
      intro _
      have hself := Panel_onKey_eq_self (not_not.mp hsame).symm
      rw [hself]
      exact hself
  · exact Panel_onKey_of_navTarget (navTarget_of_not_mem_categoriesNavKeys _ hnav hwheel)

/-- **Typing a category's first letter selects it but keeps the old page.**  On the setup
screen as `Action_runSetup` opens it, typing `R` jumps to "Renkler" (index 2) while the
screen still shows the meters page: the call `Panel_setSelected` makes into the handler
builds the colours page, and the outer call then rebuilds the page of the selection it read
on entry. -/
theorem categoriesPanel_typing_shows_previous_page :
    TypingJumps Action_runSetup_start ('R'.toNat) ∧
      (CategoriesPanel_eventHandler Action_runSetup_start ('R'.toNat)).1.super.selected = 2 ∧
      ShowsPage (CategoriesPanel_eventHandler Action_runSetup_start ('R'.toNat)).1 0 ∧
      ¬PageShown (CategoriesPanel_eventHandler Action_runSetup_start ('R'.toNat)).1 := by
  decide

end Htop

/-
# The setup screen as a whole

`Action_runSetup` (`src/Action.c`, lines 84–96) runs a screen manager over the categories
panel and the page of the selected category, and returns to the main loop when the screen is
left.  The pages write the settings of the main loop, and the colours page the colours of the
terminal.  The display options page (`src/DisplayOptionsPanel.c`) and the colours page
(`src/ColorsPanel.c`) are modelled from the source; the meters and columns pages
(`MetersPanel.c`, `ColumnsPanel.c` and their neighbours, not in `src/`) are a state of any
type: what the page builds, what a key or a selection move does to the state and to the
settings, and what `Panel_onKey` does to it.

The screen manager (`ScreenManager.c`, not in `src/`) is modelled from the spec (§4.2,
§4.4).  An event is a key or a click.  A key goes first to the handler of the focused panel;
a key the handler does not handle goes to the screen manager, which moves the focus (Left,
Right, Tab), leaves the screen (Escape, `q`, F10), or hands the key to `Panel_onKey` on the
focused panel: so the navigation keys a page leaves move its selection, and so does the mouse
wheel (`KEY_WHEELUP`, `KEY_WHEELDOWN`, the keys the screen manager makes of the wheel), also on
the categories panel, whose handler does not take it.  A click on a row focuses its panel and
moves the selection there (`Panel_setSelected`, which calls the panel's handler with
`EVENT_SET_SELECTED`); the `KEY_MOUSE` or `KEY_RECLICK` the screen manager then passes on is
a key event of its own.  Every page the categories handler builds is built from the settings
as they are, and `ColorsPanel_new` asserts that their scheme is a row: on a select-by-typing
jump the handler builds two pages (`categoriesPanel_typing_shows_previous_page`), and both are
built here.  A failed assertion is `none`.

Main results:

* `CategoriesPanel_eventHandler_pagesMade` : the screen the categories handler leaves is the
  one that building its pages, in order, leaves;
* `SetupScreen_step_inv` : from a screen with the invariant, no event fails an assertion, the
  invariant is kept, and a terminal on the settings' scheme stays on it;
* `Action_runSetup_total` : from settings whose scheme is a row, every run of the setup
  screen completes, with a scheme that is a row;
* `Action_runSetup_flags` : a run leaves the settings it started with, or sets `changed`;
* `Action_runSetup_setupFlags` : the modelled setup screen keeps the contract the results
  on the main loop assume of the setup screens;
* `setupReachable_pageShown` : along every run that makes no select-by-typing jump and turns
  no mouse wheel over the categories panel, the screen shows the page of the selected
  category.
-/
import Htop.CategoriesPanel
import Htop.ColorsPanel
import Htop.DisplayOptionsPanel
import Htop.Session

namespace Htop

/-! ## The pages the categories handler builds -/

/-- The categories whose pages `CategoriesPanel_eventHandler` builds, in order: in the typing
branch the one the re-entry of `Panel_setSelected` builds, then the one of the
`result == HANDLED` block, for the `selected` its branch holds. -/
def CategoriesPanel_pagesMade (this : CategoriesPanel) (ch : ℤ) : List ℕ :=
  let selected := Panel_getSelectedIndex this.super
  if ch = EVENT_SET_SELECTED then [selected]
  else if ch ∈ categoriesNavKeys then
    let selected' := Panel_getSelectedIndex (Panel_onKey this.super ch).1
    if selected ≠ selected' then [selected'] else []
  else if 0 < ch ∧ ch < 255 ∧ isgraph ch then
    let r := Panel_selectByTyping this.super (Char.ofNat ch.toNat)
    (if r.2.1.isSome then [Panel_getSelectedIndex r.1] else []) ++
      if (if r.2.2 = BREAK_LOOP then IGNORED else r.2.2) = HANDLED then [selected] else []
  else []

/-- **The handler builds its pages in order.**  The categories panel and the screen manager
the handler leaves are the handler's new selection with the pages of
`CategoriesPanel_pagesMade` shown one after the other. -/
theorem CategoriesPanel_eventHandler_pagesMade (this : CategoriesPanel) (ch : ℤ) :
    (CategoriesPanel_eventHandler this ch).1 =
      (CategoriesPanel_pagesMade this ch).foldl CategoriesPanel_showPage
        { this with super := (CategoriesPanel_eventHandler this ch).1.super } := by
  unfold CategoriesPanel_eventHandler CategoriesPanel_pagesMade
  by_cases hset : ch = EVENT_SET_SELECTED
  · simp [hset]
  simp only [if_neg hset]
  by_cases hnav : ch ∈ categoriesNavKeys
  · by_cases hsel : Panel_getSelectedIndex this.super ≠
        Panel_getSelectedIndex (Panel_onKey this.super ch).1 <;> simp [hnav, hsel]
  by_cases hg : 0 < ch ∧ ch < 255 ∧ isgraph ch
  · simp only [if_neg hnav, if_pos hg]
    by_cases hj : (Panel_selectByTyping this.super (Char.ofNat ch.toNat)).2.1.isSome <;>
      by_cases hres : (if (Panel_selectByTyping this.super (Char.ofNat ch.toNat)).2.2 = BREAK_LOOP
        then IGNORED else (Panel_selectByTyping this.super (Char.ofNat ch.toNat)).2.2) = HANDLED <;>
      simp [hj, hres, CategoriesPanel_onSetSelected]
  · simp [hnav, hg]

/-! ## The screen -/

/-- The meters and columns pages (`MetersPanel.c`, `AvailableMetersPanel.c`, `ColumnsPanel.c`,
`AvailableColumnsPanel.c`, not in `src/`): the state of their panels, of a type `σ`, as the
page of category `k` builds it from the settings; what an event for the handler of panel `i`
of the page does to that state and to the settings, with the handler's result; and what
`Panel_onKey` on panel `i` does to the state. -/
structure OtherPages (σ : Type) where
  new : ℕ → Settings → σ
  onEvent : ℕ → ℕ → σ → Settings → ColorsEvent → σ × Settings × ℕ
  onKey : ℕ → ℕ → σ → ℤ → σ

/-- The page the setup screen holds next to the categories: the meters page, the display
options page, the colours page, the columns page, or none (`CategoriesPanel_showPage` past the
four categories). -/
inductive SetupPage (σ : Type)
  | meters (q : σ)
  | displayOptions (p : DisplayOptionsPanel)
  | colors (p : ColorsPanel)
  | columns (q : σ)
  | blank

/-- The category a page belongs to. -/
def SetupPage.category {σ : Type} : SetupPage σ → ℕ
  | .meters _ => 0
  | .displayOptions _ => 1
  | .colors _ => 2
  | .columns _ => 3
  | .blank => 4

/-- The state of the setup screen: the categories panel (with the screen manager's panels),
the page, the settings the pages write, the colour state of the terminal, the focused panel
(`0` the categories, `i + 1` panel `i` of the page), and whether the screen has been left. -/
structure SetupScreen (σ : Type) where
  categories : CategoriesPanel
  page : SetupPage σ
  settings : Settings
  crt : CRT
  focus : ℕ
  quit : Bool

/-- Modelled from the spec: the events of the setup screen's screen manager, a key (the
mouse wheel's included) or a click on row `row` of panel `panel`. -/
inductive SetupEvent
  | key (ch : ℤ)
  | click (panel : ℕ) (row : ℤ)
  deriving DecidableEq, Repr

/-- The panel after the selection move of an event (`Panel_setSelected`). -/
def ColorsEvent.moveSelection {α : Type} (p : Panel α) : ColorsEvent → Panel α
  | .select i => Panel_setSelected p i
  | .key _ => p

/-- The key the panel's handler is then called with: `Panel_setSelected` calls it with
`EVENT_SET_SELECTED`. -/
def ColorsEvent.handlerKey : ColorsEvent → ℤ
  | .select _ => EVENT_SET_SELECTED
  | .key ch => ch

@[simp] theorem ColorsEvent.moveSelection_items {α : Type} (p : Panel α) (ev : ColorsEvent) :
    (ev.moveSelection p).items = p.items := by
  cases ev <;> simp [ColorsEvent.moveSelection]

section Run

variable {σ : Type} (cpuTemp hwloc : Bool) (numberOp : NumberItemOp → ℤ → ℤ → ℤ → ℤ → ℤ)
  (other : OtherPages σ)

/-- The page `CategoriesPanel_showPage` builds for category `k` from the settings
(`DisplayOptionsPanel_new`, `ColorsPanel_new`, and the meters and columns panels); `none` when
`ColorsPanel_new` fails its assertion. -/
def makePage (settings : Settings) : ℕ → Option (SetupPage σ)
  | 0 => some (.meters (other.new 0 settings))
  | 1 => some (.displayOptions (DisplayOptionsPanel_new cpuTemp hwloc settings))
  | 2 => (ColorsPanel_new settings).map .colors
  | 3 => some (.columns (other.new 3 settings))
  | _ => some .blank

/-- An event for the categories panel, after its selection move: the handler runs, and each
page it builds is built from the settings; the last one stays.  Returns the handler's
result. -/
def SetupScreen_onCategories (s : SetupScreen σ) (categories : CategoriesPanel) (ch : ℤ) :
    Option (SetupScreen σ × ℕ) :=
  ((CategoriesPanel_pagesMade categories ch).foldlM
      (fun _ k => makePage cpuTemp hwloc other s.settings k) s.page).map fun page =>
    ({ s with categories := (CategoriesPanel_eventHandler categories ch).1, page },
      (CategoriesPanel_eventHandler categories ch).2)

/-- An event for panel `i` of the page: the display options and colours handlers run on the
settings of the screen, the meters and columns pages take it with their state.  Returns the
handler's result. -/
def SetupScreen_onPage (s : SetupScreen σ) (i : ℕ) (ev : ColorsEvent) :
    Option (SetupScreen σ × ℕ) :=
  match s.page with
  | .meters q =>
    let r := other.onEvent 0 i q s.settings ev
    some ({ s with page := .meters r.1, settings := r.2.1 }, r.2.2)
  | .displayOptions p =>
    (DisplayOptionsPanel_eventHandler numberOp ⟨ev.moveSelection p.super, s.settings⟩
        ev.handlerKey).map fun r =>
      ({ s with page := .displayOptions r.1, settings := r.1.settings }, r.2)
  | .colors p =>
    (ColorsPanel_step (⟨p.super, s.settings⟩, s.crt) ev).map fun r =>
      ({ s with page := .colors r.1, settings := r.1.settings, crt := r.2.1 }, r.2.2)
  | .columns q =>
    let r := other.onEvent 3 i q s.settings ev
    some ({ s with page := .columns r.1, settings := r.2.1 }, r.2.2)
  | .blank => some (s, IGNORED)

/-- An event for the focused panel's handler. -/
def SetupScreen_onFocused (s : SetupScreen σ) (ev : ColorsEvent) : Option (SetupScreen σ × ℕ) :=
  match s.focus with
  | 0 => SetupScreen_onCategories cpuTemp hwloc other s
      { s.categories with super := ev.moveSelection s.categories.super } ev.handlerKey
  | i + 1 => SetupScreen_onPage numberOp other s i ev

/-- `Panel_onKey` on the focused panel. -/
def SetupScreen_panelOnKey (s : SetupScreen σ) (ch : ℤ) : SetupScreen σ :=
  match s.focus, s.page with
  | 0, _ =>
    { s with categories := { s.categories with super := (Panel_onKey s.categories.super ch).1 } }
  | i + 1, .meters q => { s with page := .meters (other.onKey 0 i q ch) }
  | _ + 1, .displayOptions p =>
    { s with page := .displayOptions { p with super := (Panel_onKey p.super ch).1 } }
  | _ + 1, .colors p => { s with page := .colors { p with super := (Panel_onKey p.super ch).1 } }
  | i + 1, .columns q => { s with page := .columns (other.onKey 3 i q ch) }
  | _ + 1, .blank => s

/-- The focus after Right or Tab: the next panel, if there is one. -/
def focusRight (size focus : ℕ) : ℕ := if focus + 1 < size then focus + 1 else focus

theorem focusRight_lt {size focus : ℕ} (h : focus < size) : focusRight size focus < size := by
  unfold focusRight
  split_ifs with h'
  · exact h'
  · exact h

/-- Modelled from the spec (§4.4): what `ScreenManager_run` does after the focused panel's
handler returned `result` on the key `ch`.  A handled key ends there and `BREAK_LOOP` leaves
the screen; any other key goes to the screen manager's switch: Left and Right (and Tab) move
the focus along the panels, Escape, `q` and F10 leave the screen, and every other key goes
to `Panel_onKey` on the focused panel. -/
def ScreenManager_afterHandler (s : SetupScreen σ) (result : ℕ) (ch : ℤ) : SetupScreen σ :=
  if result &&& HANDLED ≠ 0 then s
  else if result &&& BREAK_LOOP ≠ 0 then { s with quit := true }
  else if ch = KEY_LEFT ∨ ch = KEY_CTRL 'B' then { s with focus := s.focus - 1 }
  else if ch = KEY_RIGHT ∨ ch = KEY_CTRL 'F' ∨ ch = 9 then
    { s with focus := focusRight (ScreenManager_size s.categories.scr) s.focus }
  else if ch = 27 ∨ ch = key 'q' ∨ ch = KEY_F 10 then { s with quit := true }
  else SetupScreen_panelOnKey other s ch

/-- Modelled from the spec (§4.4): one event of the setup screen's screen manager.  A key goes
to the focused panel's handler and then to `ScreenManager_afterHandler`; a click on a row of
a panel focuses the panel and moves its selection, and a click past the panels does
nothing. -/
def SetupScreen_step (s : SetupScreen σ) : SetupEvent → Option (SetupScreen σ)
  | .key ch => (SetupScreen_onFocused cpuTemp hwloc numberOp other s (.key ch)).map fun r =>
      ScreenManager_afterHandler other r.1 r.2 ch
  | .click panel row =>
    if panel < ScreenManager_size s.categories.scr then
      (SetupScreen_onFocused cpuTemp hwloc numberOp other { s with focus := panel }
        (.select row)).map Prod.fst
    else some s

/-- A run of events of the setup screen, up to the event that leaves it; `none` when an
assertion fails. -/
def SetupScreen_run : SetupScreen σ → List SetupEvent → Option (SetupScreen σ)
  | s, [] => some s
  | s, ev :: evs =>
    if s.quit then some s
    else (SetupScreen_step cpuTemp hwloc numberOp other s ev).bind fun s' => SetupScreen_run s' evs

/-- The setup screen as `Action_runSetup` opens it on the settings and the terminal of the
main loop: the categories panel, focused, and the meters page. -/
def SetupScreen_start (settings : Settings) (crt : CRT) : SetupScreen σ :=
  ⟨Action_runSetup_start, .meters (other.new 0 settings), settings, crt, 0, false⟩

/-- `Action_runSetup(st)` over the events of the screen it opens: the settings and the colour
state of the terminal the screen leaves.  `Header_writeBackToSettings` writes the header's
meters into the settings, which no field modelled here holds. -/
def Action_runSetup (settings : Settings) (crt : CRT) (events : List SetupEvent) :
    Option (Settings × CRT) :=
  (SetupScreen_run cpuTemp hwloc numberOp other (SetupScreen_start other settings crt)
    events).map fun s => (s.settings, s.crt)

/-! ## The invariant -/

/-- What a page keeps: the display options page has the rows `DisplayOptionsPanel_new`
gives it, and the colours page checks the row of the settings' scheme alone. -/
def PageInv (settings : Settings) : SetupPage σ → Prop
  | .displayOptions p => p.super.items = displayOptionsItems cpuTemp hwloc
  | .colors p => ColorsInv ⟨p.super, settings⟩
  | _ => True

/-- The invariant of the setup screen: the scheme of the settings is a row of the colours
page, the screen manager shows the page the screen holds, the page keeps `PageInv`, and the
focus is on one of the screen manager's panels. -/
structure SetupInv (s : SetupScreen σ) : Prop where
  scheme_nonneg : 0 ≤ s.settings.colorScheme
  scheme_lt : s.settings.colorScheme < LAST_COLORSCHEME
  shows : ShowsPage s.categories s.page.category
  page : PageInv cpuTemp hwloc s.settings s.page
  focus_lt : s.focus < ScreenManager_size s.categories.scr

/-- The terminal is on the scheme of the settings. -/
def TerminalSynced (s : SetupScreen σ) : Prop :=
  s.crt.colorScheme = s.settings.colorScheme ∧ s.crt.colors = s.settings.colorScheme

/-- A step keeps the terminal's colours and the settings' scheme, or leaves the terminal on
the settings' scheme. -/
def KeepsTerminal (s s' : SetupScreen σ) : Prop :=
  s'.crt = s.crt ∧ s'.settings.colorScheme = s.settings.colorScheme ∨ TerminalSynced s'

theorem KeepsTerminal.synced {s s' : SetupScreen σ} (h : KeepsTerminal s s')
    (hs : TerminalSynced s) : TerminalSynced s' := by
  rcases h with ⟨hcrt, hcs⟩ | h
  · unfold TerminalSynced
    rw [hcrt, hcs]
    exact hs
  · exact h

/-- A screen with the terminal and the settings of one that keeps the terminal keeps it. -/
theorem KeepsTerminal.of_same {s s' s'' : SetupScreen σ} (h : KeepsTerminal s s')
    (hcrt : s''.crt = s'.crt) (hset : s''.settings = s'.settings) : KeepsTerminal s s'' := by
  unfold KeepsTerminal TerminalSynced
  rw [hcrt, hset]
  exact h

/-- The meters and columns pages flag what they change in the settings. -/
def OtherPages.Flags (other : OtherPages σ) : Prop :=
  ∀ k i q s ev, (other.onEvent k i q s ev).2.1 = s ∨ (other.onEvent k i q s ev).2.1.changed = true

/-- The meters and columns pages leave the colour scheme alone. -/
def OtherPages.KeepsScheme (other : OtherPages σ) : Prop :=
  ∀ k i q s ev, (other.onEvent k i q s ev).2.1.colorScheme = s.colorScheme

/-- Meters and columns pages that keep their state, change no setting and handle no key. -/
def OtherPages.idle : OtherPages Unit :=
  ⟨fun _ _ => (), fun _ _ q s _ => (q, s, IGNORED), fun _ _ q _ => q⟩

/-- A page built from settings whose scheme is a row is built, keeps `PageInv`, and is shown
as the page of its category. -/
theorem makePage_inv {settings : Settings}
    (hcs : 0 ≤ settings.colorScheme ∧ settings.colorScheme < LAST_COLORSCHEME) (k : ℕ) :
    ∃ page, makePage cpuTemp hwloc other settings k = some page ∧
      PageInv cpuTemp hwloc settings page ∧ categoryPage page.category = categoryPage k := by
  match k with
  | 0 => exact ⟨_, rfl, trivial, rfl⟩
  | 1 => exact ⟨_, rfl, DisplayOptionsPanel_new_items cpuTemp hwloc settings, rfl⟩
  | 2 =>
    obtain ⟨this, hnew, hinv⟩ := ColorsPanel_new_inv settings hcs
    refine ⟨.colors this, by simp [makePage, hnew], ?_, rfl⟩
    show ColorsInv ⟨this.super, settings⟩
    rwa [← ColorsPanel_new_settings hnew]
  | 3 => exact ⟨_, rfl, trivial, rfl⟩
  | k + 4 => exact ⟨_, rfl, trivial, rfl⟩

/-- Building the pages of a list of categories, one after the other, from settings whose
scheme is a row: every page is built, and the last one is the one shown. -/
theorem pagesMade_inv {settings : Settings}
    (hcs : 0 ≤ settings.colorScheme ∧ settings.colorScheme < LAST_COLORSCHEME) :
    ∀ (made : List ℕ) (c : CategoriesPanel) (page : SetupPage σ),
      ShowsPage c page.category → PageInv cpuTemp hwloc settings page →
      ∃ page', made.foldlM (fun _ k => makePage cpuTemp hwloc other settings k) page =
          some page' ∧ ShowsPage (made.foldl CategoriesPanel_showPage c) page'.category ∧
        PageInv cpuTemp hwloc settings page'
  | [], _, page, hshow, hpage => ⟨page, rfl, hshow, hpage⟩
  | k :: made, c, page, hshow, _ => by
    obtain ⟨pk, hk, hpk, hcat⟩ := makePage_inv cpuTemp hwloc other hcs k
    have hshow' : ShowsPage (CategoriesPanel_showPage c k) pk.category := by
      unfold ShowsPage
      rw [hcat]
      exact CategoriesPanel_showPage_shows k hshow
    obtain ⟨page', hrun, hshow'', hpage'⟩ := pagesMade_inv hcs made _ pk hshow' hpk
    exact ⟨page', by simp [hk, hrun], hshow'', hpage'⟩

/-- A screen that shows a page has the categories panel at least. -/
theorem ShowsPage.size_pos {c : CategoriesPanel} {k : ℕ} (h : ShowsPage c k) :
    0 < ScreenManager_size c.scr := by
  unfold ScreenManager_size
  rw [h]
  exact Nat.succ_pos _

/-- An event for the focused categories panel keeps the invariant and touches neither the
settings nor the terminal. -/
theorem SetupScreen_onCategories_inv {s : SetupScreen σ} (hinv : SetupInv cpuTemp hwloc s)
    (hfocus : s.focus = 0) (c : CategoriesPanel) (hscr : c.scr = s.categories.scr) (ch : ℤ) :
    ∃ r, SetupScreen_onCategories cpuTemp hwloc other s c ch = some r ∧
      SetupInv cpuTemp hwloc r.1 ∧ KeepsTerminal s r.1 := by
  have hshow : ShowsPage { c with super := (CategoriesPanel_eventHandler c ch).1.super }
      s.page.category := by
    unfold ShowsPage
    rw [hscr]
    exact hinv.shows
  obtain ⟨page', hrun, hshow', hpage'⟩ := pagesMade_inv cpuTemp hwloc other
    ⟨hinv.scheme_nonneg, hinv.scheme_lt⟩ (CategoriesPanel_pagesMade c ch) _ _ hshow hinv.page
  have hshow'' : ShowsPage (CategoriesPanel_eventHandler c ch).1 page'.category := by
    rw [CategoriesPanel_eventHandler_pagesMade]
    exact hshow'
  refine ⟨({ s with categories := (CategoriesPanel_eventHandler c ch).1, page := page' },
      (CategoriesPanel_eventHandler c ch).2),
    by rw [SetupScreen_onCategories, hrun]; rfl,
    ⟨hinv.scheme_nonneg, hinv.scheme_lt, hshow'', hpage', ?_⟩, .inl ⟨rfl, rfl⟩⟩
  show s.focus < _
  rw [hfocus]
  exact hshow''.size_pos

/-- An event for a panel of the page, from a screen with the invariant: no assertion fails,
the invariant is kept, and the terminal keeps its colours and the settings their scheme, or
the terminal is left on the settings' scheme. -/
theorem SetupScreen_onPage_inv (hother : other.KeepsScheme) {s : SetupScreen σ}
    (hinv : SetupInv cpuTemp hwloc s) (i : ℕ) (ev : ColorsEvent) :
    ∃ r, SetupScreen_onPage numberOp other s i ev = some r ∧ SetupInv cpuTemp hwloc r.1 ∧
      KeepsTerminal s r.1 := by
  obtain ⟨c, page, settings, crt, focus, quit⟩ := s
  obtain ⟨hnn, hlt, hshow, hpage, hfocus⟩ := hinv
  cases page with
  | meters q =>
    have hcs := hother 0 i q settings ev
    exact ⟨(⟨c, .meters (other.onEvent 0 i q settings ev).1,
      (other.onEvent 0 i q settings ev).2.1, crt, focus, quit⟩, _), rfl,
      ⟨hcs ▸ hnn, hcs ▸ hlt, hshow, trivial, hfocus⟩, .inl ⟨rfl, hcs⟩⟩
  | displayOptions p =>
    have hne : (ev.moveSelection p.super).items ≠ [] := by
      simpa [show p.super.items = _ from hpage] using displayOptionsItems_ne_nil cpuTemp hwloc
    obtain ⟨r, hr⟩ := Option.isSome_iff_exists.mp
      (@DisplayOptionsPanel_eventHandler_isSome numberOp ⟨ev.moveSelection p.super, settings⟩
        ev.handlerKey hne)
    obtain ⟨hsuper, hcase⟩ := DisplayOptionsPanel_eventHandler_frame _ _ hr
    have hcs : r.1.settings.colorScheme = settings.colorScheme := by
      rcases hcase with rfl | ⟨-, -, _, -, hw⟩
      · rfl
      · exact hw.1
    refine ⟨(⟨c, .displayOptions r.1, r.1.settings, crt, focus, quit⟩, r.2),
      by simp only [SetupScreen_onPage, hr]; rfl, ⟨hcs ▸ hnn, hcs ▸ hlt, hshow, ?_, hfocus⟩,
      .inl ⟨rfl, hcs⟩⟩
    show r.1.super.items = _
    rw [hsuper, ColorsEvent.moveSelection_items]
    exact hpage
  | colors p =>
    obtain ⟨r, hr, hinv', hcase⟩ := ColorsPanel_step_inv (⟨p.super, settings⟩, crt) ev hpage
    refine ⟨(⟨c, .colors r.1, r.1.settings, r.2.1, focus, quit⟩, r.2.2),
      by simp only [SetupScreen_onPage, hr]; rfl,
      ⟨hinv'.scheme_nonneg, hinv'.scheme_lt, hshow, hinv', hfocus⟩, ?_⟩
    rcases hcase with ⟨-, hset, hcrt⟩ | ⟨-, -, hsync⟩
    · exact .inl ⟨hcrt, congrArg Settings.colorScheme hset⟩
    · exact .inr hsync
  | columns q =>
    have hcs := hother 3 i q settings ev
    exact ⟨(⟨c, .columns (other.onEvent 3 i q settings ev).1,
      (other.onEvent 3 i q settings ev).2.1, crt, focus, quit⟩, _), rfl,
      ⟨hcs ▸ hnn, hcs ▸ hlt, hshow, trivial, hfocus⟩, .inl ⟨rfl, hcs⟩⟩
  | blank => exact ⟨_, rfl, ⟨hnn, hlt, hshow, hpage, hfocus⟩, .inl ⟨rfl, rfl⟩⟩

/-- An event for the focused panel's handler keeps the invariant and the terminal. -/
theorem SetupScreen_onFocused_inv (hother : other.KeepsScheme) {s : SetupScreen σ}
    (hinv : SetupInv cpuTemp hwloc s) (ev : ColorsEvent) :
    ∃ r, SetupScreen_onFocused cpuTemp hwloc numberOp other s ev = some r ∧
      SetupInv cpuTemp hwloc r.1 ∧ KeepsTerminal s r.1 := by
  unfold SetupScreen_onFocused
  split
  · rename_i hfocus
    exact SetupScreen_onCategories_inv cpuTemp hwloc other hinv hfocus
      { s.categories with super := ev.moveSelection s.categories.super } rfl ev.handlerKey
  · exact SetupScreen_onPage_inv cpuTemp hwloc numberOp other hother hinv _ ev

/-- `Panel_onKey` on the focused panel keeps the invariant, the terminal and the settings. -/
theorem SetupScreen_panelOnKey_inv {s : SetupScreen σ} (hinv : SetupInv cpuTemp hwloc s)
    (ch : ℤ) :
    SetupInv cpuTemp hwloc (SetupScreen_panelOnKey other s ch) ∧
      (SetupScreen_panelOnKey other s ch).crt = s.crt ∧
      (SetupScreen_panelOnKey other s ch).settings = s.settings := by
  obtain ⟨c, page, settings, crt, focus, quit⟩ := s
  obtain ⟨hnn, hlt, hshow, hpage, hfocus⟩ := hinv
  cases focus with
  | zero => exact ⟨⟨hnn, hlt, hshow, hpage, hfocus⟩, rfl, rfl⟩
  | succ i =>
    cases page with
    | displayOptions p =>
      refine ⟨⟨hnn, hlt, hshow, ?_, hfocus⟩, rfl, rfl⟩
      show (Panel_onKey p.super ch).1.items = _
      rw [Panel_onKey_items]
      exact hpage
    | colors p => exact ⟨⟨hnn, hlt, hshow, ColorsInv.onKey hpage ch, hfocus⟩, rfl, rfl⟩
    | _ => exact ⟨⟨hnn, hlt, hshow, hpage, hfocus⟩, rfl, rfl⟩

/-- The screen manager's switch keeps the invariant, the terminal and the settings. -/
theorem ScreenManager_afterHandler_inv {s : SetupScreen σ} (hinv : SetupInv cpuTemp hwloc s)
    (result : ℕ) (ch : ℤ) :
    SetupInv cpuTemp hwloc (ScreenManager_afterHandler other s result ch) ∧
      (ScreenManager_afterHandler other s result ch).crt = s.crt ∧
      (ScreenManager_afterHandler other s result ch).settings = s.settings := by
  obtain ⟨hnn, hlt, hshow, hpage, hfocus⟩ := hinv
  unfold ScreenManager_afterHandler
  split_ifs
  · exact ⟨⟨hnn, hlt, hshow, hpage, hfocus⟩, rfl, rfl⟩
  · exact ⟨⟨hnn, hlt, hshow, hpage, hfocus⟩, rfl, rfl⟩
  · exact ⟨⟨hnn, hlt, hshow, hpage, Nat.lt_of_le_of_lt (Nat.sub_le _ _) hfocus⟩, rfl, rfl⟩
  · exact ⟨⟨hnn, hlt, hshow, hpage, focusRight_lt hfocus⟩, rfl, rfl⟩
  · exact ⟨⟨hnn, hlt, hshow, hpage, hfocus⟩, rfl, rfl⟩
  · exact SetupScreen_panelOnKey_inv cpuTemp hwloc other ⟨hnn, hlt, hshow, hpage, hfocus⟩ ch

/-- **One event of the setup screen.**  From a screen with the invariant, no event fails an
assertion (no colours page is built on a scheme that is not a row, and no display options
key reaches a missing row), the invariant is kept, and the terminal keeps its colours and the
settings their scheme, or the terminal is left on the settings' scheme. -/
theorem SetupScreen_step_inv (hother : other.KeepsScheme) {s : SetupScreen σ}
    (hinv : SetupInv cpuTemp hwloc s) (ev : SetupEvent) :
    ∃ s', SetupScreen_step cpuTemp hwloc numberOp other s ev = some s' ∧
      SetupInv cpuTemp hwloc s' ∧ KeepsTerminal s s' := by
  cases ev with
  | key ch =>
    obtain ⟨r, hr, hinv', hkeep⟩ :=
      SetupScreen_onFocused_inv cpuTemp hwloc numberOp other hother hinv (.key ch)
    obtain ⟨hinv'', hcrt, hset⟩ := ScreenManager_afterHandler_inv cpuTemp hwloc other hinv' r.2 ch
    exact ⟨_, by simp only [SetupScreen_step, hr, Option.map_some'], hinv'',
      hkeep.of_same hcrt hset⟩
  | click panel row =>
    by_cases hp : panel < ScreenManager_size s.categories.scr
    · have hinvf : SetupInv cpuTemp hwloc { s with focus := panel } :=
        ⟨hinv.scheme_nonneg, hinv.scheme_lt, hinv.shows, hinv.page, hp⟩
      obtain ⟨r, hr, hinv', hkeep⟩ :=
        SetupScreen_onFocused_inv cpuTemp hwloc numberOp other hother hinvf (.select row)
      exact ⟨r.1, by simp only [SetupScreen_step, if_pos hp, hr, Option.map_some'], hinv', hkeep⟩
    · exact ⟨s, by simp only [SetupScreen_step, if_neg hp], hinv, .inl ⟨rfl, rfl⟩⟩

/-- Along every run from a screen with the invariant, no assertion fails, the invariant holds
at the end, and a terminal on the settings' scheme stays on it. -/
theorem SetupScreen_run_inv (hother : other.KeepsScheme) :
    ∀ (s : SetupScreen σ) (events : List SetupEvent), SetupInv cpuTemp hwloc s →
      ∃ s', SetupScreen_run cpuTemp hwloc numberOp other s events = some s' ∧
        SetupInv cpuTemp hwloc s' ∧ (TerminalSynced s → TerminalSynced s')
  | s, [], hinv => ⟨s, rfl, hinv, id⟩
  | s, ev :: events, hinv => by
    by_cases hq : s.quit
    · exact ⟨s, by rw [SetupScreen_run, if_pos hq], hinv, id⟩
    obtain ⟨s₁, h₁, hinv₁, hkeep⟩ := SetupScreen_step_inv cpuTemp hwloc numberOp other hother hinv ev
    obtain ⟨s', hrun, hinv', hsync⟩ := SetupScreen_run_inv hother s₁ events hinv₁
    exact ⟨s', by rw [SetupScreen_run, if_neg hq, h₁]; exact hrun, hinv',
      fun h => hsync (hkeep.synced h)⟩

/-- **The setup screen never fails an assertion.**  From settings whose scheme is a row of the
colours page, for every build, every behaviour of the number items and of the meters and
columns pages that leaves the scheme alone, and every run of events, `Action_runSetup`
completes: the screen it leaves keeps the invariant (the scheme is a row, the screen manager
shows the page the screen holds, the colours page checks the scheme's row alone, the focus is
on a panel), and a terminal that was on the settings' scheme is on it at the end. -/
theorem Action_runSetup_total (hother : other.KeepsScheme) (settings : Settings) (crt : CRT)
    (hcs : 0 ≤ settings.colorScheme ∧ settings.colorScheme < LAST_COLORSCHEME)
    (events : List SetupEvent) :
    ∃ s, SetupScreen_run cpuTemp hwloc numberOp other (SetupScreen_start other settings crt)
        events = some s ∧
      Action_runSetup cpuTemp hwloc numberOp other settings crt events = some (s.settings, s.crt) ∧
      SetupInv cpuTemp hwloc s ∧
      (TerminalSynced (SetupScreen_start other settings crt) → TerminalSynced s) := by
  have hstart : SetupInv cpuTemp hwloc (SetupScreen_start other settings crt) :=
    ⟨hcs.1, hcs.2, show ShowsPage Action_runSetup_start 0 by decide, trivial,
      show 0 < ScreenManager_size Action_runSetup_start.scr by decide⟩
  obtain ⟨s, hrun, hinv, hsync⟩ :=
    SetupScreen_run_inv cpuTemp hwloc numberOp other hother _ events hstart
  exact ⟨s, hrun, by rw [Action_runSetup, hrun]; rfl, hinv, hsync⟩

/-- Down twice to the colours page, Right to focus it, End and Up to "Kara gece", space to
confirm it, and Escape to leave. -/
def setupToBlackNight : List SetupEvent :=
  [.key KEY_DOWN, .key KEY_DOWN, .key KEY_RIGHT, .key KEY_END, .key KEY_UP,
    .key (' '.toNat : ℤ), .key 27]

theorem Action_runSetup_total_blackNight :
    OtherPages.idle.KeepsScheme ∧
      (0 ≤ idleState.settings.colorScheme ∧ idleState.settings.colorScheme < LAST_COLORSCHEME) ∧
      ∃ s, SetupScreen_run false false (fun _ _ _ _ v => v) OtherPages.idle
          (SetupScreen_start OtherPages.idle idleState.settings ⟨0, 0⟩) setupToBlackNight = some s ∧
        Action_runSetup false false (fun _ _ _ _ v => v) OtherPages.idle idleState.settings ⟨0, 0⟩
          setupToBlackNight = some (s.settings, s.crt) ∧
        SetupInv false false s ∧
        (TerminalSynced (SetupScreen_start OtherPages.idle idleState.settings ⟨0, 0⟩) →
          TerminalSynced s) :=
  ⟨fun _ _ _ _ _ => rfl, by decide,
    Action_runSetup_total false false (fun _ _ _ _ v => v) OtherPages.idle (fun _ _ _ _ _ => rfl)
      idleState.settings ⟨0, 0⟩ (by decide) setupToBlackNight⟩

/-- The run leaves the screen with "Kara gece" in the settings and on the terminal, and the
change flagged. -/
example : (SetupScreen_run false false (fun _ _ _ _ v => v) OtherPages.idle
    (SetupScreen_start OtherPages.idle idleState.settings ⟨0, 0⟩) setupToBlackNight).map
      (fun s => (s.settings.colorScheme, s.settings.changed, s.crt, s.quit)) =
      some (5, true, ⟨5, 5⟩, true) := by
  decide

/-! ## What the setup screen writes -/

/-- The screen manager's switch leaves the settings. -/
theorem ScreenManager_afterHandler_settings (s : SetupScreen σ) (result : ℕ) (ch : ℤ) :
    (ScreenManager_afterHandler other s result ch).settings = s.settings := by
  unfold ScreenManager_afterHandler SetupScreen_panelOnKey
  split_ifs <;> try rfl
  split <;> rfl

/-- An event for the categories panel changes neither the settings nor the terminal. -/
theorem SetupScreen_onCategories_settings {s : SetupScreen σ} {c : CategoriesPanel} {ch : ℤ}
    {r : SetupScreen σ × ℕ} (h : SetupScreen_onCategories cpuTemp hwloc other s c ch = some r) :
    r.1.settings = s.settings := by
  obtain ⟨_, -, rfl⟩ := Option.map_eq_some'.mp h
  rfl

/-- An event for a panel of the page leaves the settings as they were or sets `changed`. -/
theorem SetupScreen_onPage_flags (hother : other.Flags) {s : SetupScreen σ} {i : ℕ}
    {ev : ColorsEvent} {r : SetupScreen σ × ℕ}
    (h : SetupScreen_onPage numberOp other s i ev = some r) :
    r.1.settings = s.settings ∨ r.1.settings.changed = true := by
  obtain ⟨c, page, settings, crt, focus, quit⟩ := s
  cases page with
  | meters q =>
    cases h
    exact hother 0 i q settings ev
  | displayOptions p =>
    obtain ⟨r, hr, rfl⟩ := Option.map_eq_some'.mp h
    rcases (DisplayOptionsPanel_eventHandler_frame _ _ hr).2 with rfl | ⟨-, hc, -⟩
    · exact .inl rfl
    · exact .inr hc
  | colors p =>
    obtain ⟨r, hr, rfl⟩ := Option.map_eq_some'.mp h
    unfold ColorsPanel_step at hr
    split at hr <;> exact ColorsPanel_eventHandler_flags _ _ _ hr
  | columns q =>
    cases h
    exact hother 3 i q settings ev
  | blank =>
    cases h
    exact .inl rfl

/-- An event for the focused panel's handler leaves the settings as they were or sets
`changed`. -/
theorem SetupScreen_onFocused_flags (hother : other.Flags) {s : SetupScreen σ}
    {ev : ColorsEvent} {r : SetupScreen σ × ℕ}
    (h : SetupScreen_onFocused cpuTemp hwloc numberOp other s ev = some r) :
    r.1.settings = s.settings ∨ r.1.settings.changed = true := by
  unfold SetupScreen_onFocused at h
  split at h
  · exact .inl (SetupScreen_onCategories_settings cpuTemp hwloc other h)
  · exact SetupScreen_onPage_flags numberOp other hother h

/-- One event of the setup screen leaves the settings as they were or sets `changed`. -/
theorem SetupScreen_step_flags (hother : other.Flags) {s s' : SetupScreen σ} {ev : SetupEvent}
    (h : SetupScreen_step cpuTemp hwloc numberOp other s ev = some s') :
    s'.settings = s.settings ∨ s'.settings.changed = true := by
  cases ev with
  | key ch =>
    obtain ⟨r, hr, rfl⟩ := Option.map_eq_some'.mp h
    rw [ScreenManager_afterHandler_settings]
    exact SetupScreen_onFocused_flags cpuTemp hwloc numberOp other hother hr
  | click panel row =>
    rw [SetupScreen_step] at h
    split at h
    · obtain ⟨r, hr, rfl⟩ := Option.map_eq_some'.mp h
      have hflags := SetupScreen_onFocused_flags cpuTemp hwloc numberOp other hother hr
      exact hflags
    · cases h
      exact .inl rfl

/-- Along a run, the settings end as they started or with `changed` set. -/
theorem SetupScreen_run_flags (hother : other.Flags) :
    ∀ (s s' : SetupScreen σ) (events : List SetupEvent),
      SetupScreen_run cpuTemp hwloc numberOp other s events = some s' →
      s'.settings = s.settings ∨ s'.settings.changed = true
  | s, s', [], h => .inl (by cases h; rfl)
  | s, s', ev :: events, h => by
    rw [SetupScreen_run] at h
    split at h
    · cases h
      exact .inl rfl
    obtain ⟨s₁, h₁, hrun⟩ := Option.bind_eq_some.mp h
    rcases SetupScreen_run_flags hother s₁ s' events hrun with heq | hc
    · rcases SetupScreen_step_flags cpuTemp hwloc numberOp other hother h₁ with h₁' | hc₁
      · exact .inl (heq.trans h₁')
      · exact .inr (heq ▸ hc₁)
    · exact .inr hc

/-- **The setup screen flags what it changes.**  For every behaviour of the number items and
of the meters and columns pages that flags its changes, the settings a completed run of
`Action_runSetup` leaves are the settings it was given, or have `changed` set. -/
theorem Action_runSetup_flags (hother : other.Flags) {settings : Settings} {crt : CRT}
    {events : List SetupEvent} {r : Settings × CRT}
    (h : Action_runSetup cpuTemp hwloc numberOp other settings crt events = some r) :
    r.1 = settings ∨ r.1.changed = true := by
  obtain ⟨s, hrun, rfl⟩ := Option.map_eq_some'.mp h
  exact SetupScreen_run_flags cpuTemp hwloc numberOp other hother _ s events hrun

theorem Action_runSetup_flags_blackNight :
    OtherPages.idle.Flags ∧
      ∃ r, Action_runSetup false false (fun _ _ _ _ v => v) OtherPages.idle idleState.settings
          ⟨0, 0⟩ setupToBlackNight = some r ∧
        (r.1 = idleState.settings ∨ r.1.changed = true) :=
  ⟨fun _ _ _ _ _ => .inl rfl, _, rfl,
    @Action_runSetup_flags _ false false (fun _ _ _ _ v => v) OtherPages.idle
      (fun _ _ _ _ _ => .inl rfl) idleState.settings ⟨0, 0⟩ setupToBlackNight _ rfl⟩

/-- The settings a visit to the setup screen leaves, as the main loop's `Extern.runSetup`
takes them: the run of `Action_runSetup` over the visit's events on the terminal's colours.
A run that fails an assertion ends htop; it is read here as leaving the settings, which from
a scheme that is a row never happens (`Action_runSetup_total`). -/
def Action_runSetup_settings (crt : CRT) (events : List SetupEvent) (settings : Settings) :
    Settings :=
  ((Action_runSetup cpuTemp hwloc numberOp other settings crt events).map Prod.fst).getD settings

/-- **The modelled setup screen keeps the main loop's contract.**  With `Extern.runSetup`
given by the setup screen over any events, it keeps `SetupFlags`, the hypothesis under which
the main loop loses no change of the settings (`mainLoop_settings`). -/
theorem Action_runSetup_setupFlags (hother : other.Flags) (ext : Extern) (crt : CRT)
    (events : List SetupEvent) :
    SetupFlags { ext with
      runSetup := Action_runSetup_settings cpuTemp hwloc numberOp other crt events } := by
  intro settings hne
  simp only [Action_runSetup_settings] at hne ⊢
  cases h : Action_runSetup cpuTemp hwloc numberOp other settings crt events with
  | none => simp [h] at hne
  | some r =>
    simp only [h, Option.map_some', Option.getD_some] at hne ⊢
    obtain ⟨s, hrun, rfl⟩ := Option.map_eq_some'.mp h
    exact (SetupScreen_run_flags cpuTemp hwloc numberOp other hother _ s events hrun).resolve_left hne

theorem Action_runSetup_setupFlags_blackNight :
    OtherPages.idle.Flags ∧
      SetupFlags { idleExtern with
        runSetup := Action_runSetup_settings false false (fun _ _ _ _ v => v) OtherPages.idle
          ⟨0, 0⟩ setupToBlackNight } :=
  ⟨fun _ _ _ _ _ => .inl rfl,
    Action_runSetup_setupFlags false false (fun _ _ _ _ v => v) OtherPages.idle
      (fun _ _ _ _ _ => .inl rfl) idleExtern ⟨0, 0⟩ setupToBlackNight⟩

/-! ## The page follows the selection -/

/-- The event moves the selection of the focused categories panel without its handler seeing
the move: a select-by-typing jump, whose re-entry builds a page that the outer call then
replaces (`categoriesPanel_typing_shows_previous_page`), or a turn of the mouse wheel, which the
handler leaves to the screen manager's `Panel_onKey`. -/
def MovesUnseen (s : SetupScreen σ) : SetupEvent → Prop
  | .key ch => s.focus = 0 ∧ (TypingJumps s.categories ch ∨ ch = KEY_WHEELUP ∨ ch = KEY_WHEELDOWN)
  | .click _ _ => False

instance : (s : SetupScreen σ) → (ev : SetupEvent) → Decidable (MovesUnseen s ev)
  | s, .key _ => inferInstanceAs (Decidable (s.focus = 0 ∧ _))
  | _, .click _ _ => inferInstanceAs (Decidable False)

/-- The setup screens reached from one `Action_runSetup` opens by events none of which moves
the categories selection unseen. -/
inductive SetupReachable : SetupScreen σ → Prop
  | start (settings : Settings) (crt : CRT) : SetupReachable (SetupScreen_start other settings crt)
  | step {s s' : SetupScreen σ} (h : SetupReachable s) (ev : SetupEvent)
      (hev : ¬MovesUnseen s ev)
      (hs : SetupScreen_step cpuTemp hwloc numberOp other s ev = some s') : SetupReachable s'

/-- An event for a panel of the page leaves the categories panel and the focus. -/
theorem SetupScreen_onPage_categories {s : SetupScreen σ} {i : ℕ} {ev : ColorsEvent}
    {r : SetupScreen σ × ℕ} (h : SetupScreen_onPage numberOp other s i ev = some r) :
    r.1.categories = s.categories ∧ r.1.focus = s.focus := by
  unfold SetupScreen_onPage at h
  split at h
  all_goals first
    | (cases h; exact ⟨rfl, rfl⟩)
    | (obtain ⟨_, -, rfl⟩ := Option.map_eq_some'.mp h; exact ⟨rfl, rfl⟩)

/-- The screen manager's switch leaves the categories panel, but for `Panel_onKey` on it when
it is focused and the handler did not handle the key. -/
theorem ScreenManager_afterHandler_categories (s : SetupScreen σ) (result : ℕ) (ch : ℤ)
    (h : s.focus = 0 → result &&& HANDLED = 0 →
      (Panel_onKey s.categories.super ch).1 = s.categories.super) :
    (ScreenManager_afterHandler other s result ch).categories = s.categories := by
  unfold ScreenManager_afterHandler
  split_ifs with hres
  any_goals rfl
  unfold SetupScreen_panelOnKey
  split
  · rename_i hfocus
    dsimp only
    rw [h hfocus (not_not.mp hres)]
  all_goals rfl

/-- An event for the focused categories panel: the screen's categories panel and the result
are the handler's. -/
theorem SetupScreen_onFocused_categories {s : SetupScreen σ} (hfocus : s.focus = 0)
    {ev : ColorsEvent} {r : SetupScreen σ × ℕ}
    (h : SetupScreen_onFocused cpuTemp hwloc numberOp other s ev = some r) :
    r.1.categories = (CategoriesPanel_eventHandler
        { s.categories with super := ev.moveSelection s.categories.super } ev.handlerKey).1 ∧
      r.2 = (CategoriesPanel_eventHandler
        { s.categories with super := ev.moveSelection s.categories.super } ev.handlerKey).2 := by
  unfold SetupScreen_onFocused at h
  split at h
  · obtain ⟨_, -, rfl⟩ := Option.map_eq_some'.mp h
    exact ⟨rfl, rfl⟩
  · exfalso
    omega

/-- An event for a focused panel of the page leaves the categories panel and the focus. -/
theorem SetupScreen_onFocused_page {s : SetupScreen σ} (hfocus : s.focus ≠ 0)
    {ev : ColorsEvent} {r : SetupScreen σ × ℕ}
    (h : SetupScreen_onFocused cpuTemp hwloc numberOp other s ev = some r) :
    r.1.categories = s.categories ∧ r.1.focus = s.focus := by
  unfold SetupScreen_onFocused at h
  split at h
  · contradiction
  · exact SetupScreen_onPage_categories numberOp other h

/-- One event that does not move the categories selection unseen keeps the page of the
selected category on screen. -/
theorem SetupScreen_step_pageShown {s s' : SetupScreen σ} (hs : PageShown s.categories)
    {ev : SetupEvent} (hev : ¬MovesUnseen s ev)
    (h : SetupScreen_step cpuTemp hwloc numberOp other s ev = some s') :
    PageShown s'.categories := by
  cases ev with
  | key ch =>
    obtain ⟨r, hr, rfl⟩ := Option.map_eq_some'.mp h
    by_cases hfocus : s.focus = 0
    · obtain ⟨hjump, hwheel⟩ : ¬TypingJumps s.categories ch ∧
          ch ≠ KEY_WHEELUP ∧ ch ≠ KEY_WHEELDOWN := by
        simpa only [MovesUnseen, hfocus, true_and, not_or] using hev
      obtain ⟨hcat, hres⟩ := SetupScreen_onFocused_categories cpuTemp hwloc numberOp other hfocus hr
      have hkey : r.1.focus = 0 → r.2 &&& HANDLED = 0 →
          (Panel_onKey r.1.categories.super ch).1 = r.1.categories.super := fun _ h' => by
        rw [hcat]
        rw [hres] at h'
        exact CategoriesPanel_eventHandler_onKey s.categories hwheel h'
      rw [ScreenManager_afterHandler_categories other r.1 r.2 ch hkey, hcat]
      show PageShown (CategoriesPanel_eventHandler s.categories ch).1
      rcases CategoriesPanel_eventHandler_page _ _ hs ch with ⟨hj, -⟩ | ⟨-, ⟨hscr, hsel⟩ | hp⟩
      · exact absurd hj hjump
      · unfold PageShown ShowsPage
        rw [hscr, hsel]
        exact hs
      · exact hp
    · obtain ⟨hcat, hfoc⟩ := SetupScreen_onFocused_page cpuTemp hwloc numberOp other hfocus hr
      rw [ScreenManager_afterHandler_categories other r.1 r.2 ch
        fun h0 => absurd (hfoc ▸ h0) hfocus, hcat]
      exact hs
  | click panel row =>
    rw [SetupScreen_step] at h
    split at h
    · obtain ⟨r, hr, rfl⟩ := Option.map_eq_some'.mp h
      by_cases hp0 : panel = 0
      · have hfocus : ({ s with focus := panel } : SetupScreen σ).focus = 0 := hp0
        rw [(SetupScreen_onFocused_categories cpuTemp hwloc numberOp other hfocus hr).1]
        show PageShown (CategoriesPanel_eventHandler
          { s.categories with super := Panel_setSelected s.categories.super row }
            EVENT_SET_SELECTED).1
        rw [CategoriesPanel_eventHandler_setSelected]
        exact CategoriesPanel_showPage_pageShown hs
      · have hfocus : ({ s with focus := panel } : SetupScreen σ).focus ≠ 0 := hp0
        rw [(SetupScreen_onFocused_page cpuTemp hwloc numberOp other hfocus hr).1]
        exact hs
    · cases h
      exact hs

/-- **The page follows the selection** along every run of the setup screen from the one
`Action_runSetup` opens, through keys and clicks on any panel, as long as no event makes a
select-by-typing jump or turns the mouse wheel over the focused categories panel: the screen
manager shows the categories panel and the page of the selected category. -/
theorem setupReachable_pageShown {s : SetupScreen σ}
    (h : SetupReachable cpuTemp hwloc numberOp other s) : PageShown s.categories := by
  induction h with
  | start => exact (by decide : PageShown Action_runSetup_start)
  | step _ ev hev hs ih => exact SetupScreen_step_pageShown cpuTemp hwloc numberOp other ih hev hs

/-- Down once from the setup screen as it opens. -/
theorem setupReachable_pageShown_down :
    ∃ s, SetupScreen_step false false (fun _ _ _ _ v => v) OtherPages.idle
        (SetupScreen_start OtherPages.idle idleState.settings ⟨0, 0⟩) (.key KEY_DOWN) = some s ∧
      SetupReachable false false (fun _ _ _ _ v => v) OtherPages.idle s ∧ PageShown s.categories := by
  obtain ⟨s, hs⟩ : ∃ s, SetupScreen_step false false (fun _ _ _ _ v => v) OtherPages.idle
      (SetupScreen_start OtherPages.idle idleState.settings ⟨0, 0⟩) (.key KEY_DOWN) = some s :=
    ⟨_, rfl⟩
  have hr := SetupReachable.step (.start idleState.settings ⟨0, 0⟩) (.key KEY_DOWN) (by decide) hs
  exact ⟨s, hs, hr, setupReachable_pageShown false false (fun _ _ _ _ v => v) OtherPages.idle hr⟩

/-- The mouse wheel over the categories panel as the setup screen opens selects "Sütunlar"
while the meters page stays on screen. -/
example : (SetupScreen_step false false (fun _ _ _ _ v => v) OtherPages.idle
    (SetupScreen_start OtherPages.idle idleState.settings ⟨0, 0⟩) (.key KEY_WHEELDOWN)).map
      (fun s => (s.categories.super.selected, decide (ShowsPage s.categories 0))) =
      some (3, true) := by
  decide

end Run

end Htop

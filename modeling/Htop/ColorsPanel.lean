/-
# The colours page

`ColorsPanel` (`src/ColorsPanel.c`) lists the colour schemes as check items; confirming a
row makes it the scheme of the settings and of the terminal (`CRT_setColors`,
`src/CRT.c`, lines 892–913).  The handler asserts that the selected row is a scheme, and
`Panel_get` asserts every index it is given is a row: a failed assertion is `none`.

The colour state of `CRT.c` is `CRT_colorScheme` and the row of `CRT_colorSchemes` that
`CRT_colors` points to.  The colour pairs `CRT_setColors` registers with the terminal, and
the colours in the table, are left out: nothing modelled reads them.

Main results:

* `ColorsPanel_new_inv` : the panel built for a scheme in range checks that scheme's row
  alone;
* `ColorsPanel_step_inv` : from a panel with the invariant, no event fails an assertion, the
  invariant is kept, and a handled event leaves the terminal on the scheme of the settings;
* `colorsPanel_run_keeps_scheme` : the same along every run from `ColorsPanel_new`.
-/
import Htop.Panel
import Htop.Settings

namespace Htop

/-! ## Colour schemes -/

/-- The `ColorScheme` values run from 0 to `LAST_COLORSCHEME` (`CRT.h`, not in `src/`):
`CRT_colorSchemes` has a row for each of the seven schemes `COLORSCHEME_DEFAULT` …
`COLORSCHEME_BROKENGRAY`, and `ColorsPanel_new` asserts
`ARRAYSIZE(ColorSchemeNames) == LAST_COLORSCHEME + 1`. -/
def LAST_COLORSCHEME : ℕ := 7

/-- `ColorSchemeNames`, without its terminating `NULL`. -/
def ColorSchemeNames : List String :=
  ["Varsayılan", "Tek renkli", "Beyaz üzerine Siyah", "Işık Terminali", "MC", "Kara gece",
    "Kırık Gri"]

/-- The colour state of `CRT.c`: `CRT_colorScheme`, and the index of the row of
`CRT_colorSchemes` that `CRT_colors` points to. -/
structure CRT where
  colorScheme : ℤ
  colors : ℤ
  deriving DecidableEq, Repr

/-- `CRT_setColors(colorScheme)`. -/
def CRT_setColors (colorScheme : ℤ) : CRT := ⟨colorScheme, colorScheme⟩

/-! ## Check items -/

/-- A check item made by value (`CheckItem_newByVal`, OptionItem.c, not in `src/`): its text
and the flag it holds. -/
structure CheckItem where
  text : String
  value : Bool
  deriving DecidableEq, Repr

/-- `CheckItem_newByVal(text, value)`. -/
def CheckItem_newByVal (text : String) (value : Bool) : CheckItem := ⟨text, value⟩

/-- `CheckItem_set(item, value)` on an item made by value writes its flag. -/
def CheckItem_set (item : CheckItem) (value : Bool) : CheckItem := { item with value }

/-- `CheckItem_set((CheckItem*)Panel_get(super, i), value)`; `Panel_get` asserts that `i` is
a row. -/
def setCheckAt (p : Panel CheckItem) (i : ℤ) (value : Bool) : Option (Panel CheckItem) :=
  if 0 ≤ i ∧ i < p.items.length then
    some (p.setItems (p.items.modify (CheckItem_set · value) i.toNat) (by simp))
  else none

theorem setCheckAt_eq {p : Panel CheckItem} {i : ℕ} (h : i < p.items.length) (value : Bool) :
    setCheckAt p i value =
      some (p.setItems (p.items.modify (CheckItem_set · value) i) (by simp)) := by
  rw [setCheckAt, if_pos ⟨Int.natCast_nonneg i, by exact_mod_cast h⟩]
  rfl

/-! ## The panel -/

/-- A `ColorsPanel`: its panel and the settings it writes. -/
structure ColorsPanel where
  super : Panel CheckItem
  settings : Settings

/-- The check items of the schemes, all unchecked, as the loop of `ColorsPanel_new` adds
them. -/
def colorSchemeItems : Panel CheckItem :=
  ColorSchemeNames.foldl (fun p name => Panel_add p (CheckItem_newByVal name false)) (Panel_new 1)

/-- `ColorsPanel_new(settings, scr)`. -/
def ColorsPanel_new (settings : Settings) : Option ColorsPanel :=
  if ColorSchemeNames.length = LAST_COLORSCHEME then
    (setCheckAt colorSchemeItems settings.colorScheme true).map fun super => ⟨super, settings⟩
  else none

/-- The panel `ColorsPanel_new` builds writes the settings it is given. -/
theorem ColorsPanel_new_settings {settings : Settings} {this : ColorsPanel}
    (h : ColorsPanel_new settings = some this) : this.settings = settings := by
  unfold ColorsPanel_new at h
  split_ifs at h
  obtain ⟨super, -, rfl⟩ := Option.map_eq_some'.mp h
  rfl

/-- The keys that confirm a row. -/
def colorsConfirmKeys : List ℤ := [0x0a, 0x0d, KEY_ENTER, KEY_MOUSE, KEY_RECLICK, (' '.toNat : ℤ)]

/-- `ColorsPanel_eventHandler(super, ch)`, with the colour state of `CRT.c` it reads and
writes. -/
def ColorsPanel_eventHandler (this : ColorsPanel) (crt : CRT) (ch : ℤ) :
    Option (ColorsPanel × CRT × ℕ) :=
  let mark := Panel_getSelectedIndex this.super
  if ch ∈ colorsConfirmKeys then
    if 0 ≤ (mark : ℤ) ∧ mark < LAST_COLORSCHEME then do
      let super ← (List.range ColorSchemeNames.length).foldlM
        (fun p (i : ℕ) => setCheckAt p i false) this.super
      let super ← setCheckAt super mark true
      some (⟨super, { this.settings with colorScheme := mark, changed := true }⟩,
        CRT_setColors mark, HANDLED ||| REDRAW)
    else none
  else some (this, crt, IGNORED)

/-- The events of the colours page: the screen manager moves the selection (`select`, through
`Panel_setSelected`, which calls the handler with `EVENT_SET_SELECTED`), or passes a key. -/
inductive ColorsEvent
  | select (i : ℤ)
  | key (ch : ℤ)
  deriving DecidableEq, Repr

/-- One event on the colours page. -/
def ColorsPanel_step (s : ColorsPanel × CRT) : ColorsEvent → Option (ColorsPanel × CRT × ℕ)
  | .select i =>
    ColorsPanel_eventHandler { s.1 with super := Panel_setSelected s.1.super i } s.2
      EVENT_SET_SELECTED
  | .key ch => ColorsPanel_eventHandler s.1 s.2 ch

/-- A run of events; `none` when an assertion fails. -/
def ColorsPanel_run (s : ColorsPanel × CRT) : List ColorsEvent → Option (ColorsPanel × CRT)
  | [] => some s
  | ev :: evs => (ColorsPanel_step s ev).bind fun r => ColorsPanel_run (r.1, r.2.1) evs

/-! ## The invariant -/

/-- The colours page's invariant: the rows are the seven schemes, the setting is a scheme, and
the row of the setting is the one row checked. -/
structure ColorsInv (this : ColorsPanel) : Prop where
  length_eq : this.super.items.length = LAST_COLORSCHEME
  scheme_nonneg : 0 ≤ this.settings.colorScheme
  scheme_lt : this.settings.colorScheme < LAST_COLORSCHEME
  checked_iff : ∀ (i : ℕ) (x : CheckItem), this.super.items[i]? = some x →
    (x.value = true ↔ (i : ℤ) = this.settings.colorScheme)

/-- The terminal is on the scheme of the settings. -/
def CrtSynced (this : ColorsPanel) (crt : CRT) : Prop :=
  crt.colorScheme = this.settings.colorScheme ∧ crt.colors = this.settings.colorScheme

/-- Clearing rows `0 … n-1` of a panel with at least `n` rows succeeds and clears exactly
those rows. -/
theorem foldlM_setCheckAt_false (n : ℕ) (p : Panel CheckItem) (h : n ≤ p.items.length) :
    ∃ q, (List.range n).foldlM (fun p (i : ℕ) => setCheckAt p i false) p = some q ∧
      q.selected = p.selected ∧ q.items.length = p.items.length ∧
      ∀ (i : ℕ) (x : CheckItem), q.items[i]? = some x → ∃ y, p.items[i]? = some y ∧ x.text = y.text ∧
        x.value = (y.value && n ≤ i) := by
  induction n with
  | zero => exact ⟨p, rfl, rfl, rfl, fun i x hx => ⟨x, hx, rfl, by simp⟩⟩
  | succ n ih =>
    obtain ⟨q, hq, hsel, hlen, hitems⟩ := ih (by omega)
    refine ⟨q.setItems (q.items.modify (CheckItem_set · false) n) (by simp), ?_, hsel, ?_, ?_⟩
    · rw [List.range_succ, List.foldlM_append, hq]
      simp [setCheckAt_eq (show n < q.items.length by omega)]
    · simp [hlen]
    · intro i x hx
      simp only [Panel.setItems_items, List.getElem?_modify] at hx
      obtain ⟨x', hx', rfl⟩ := Option.map_eq_some'.mp hx
      obtain ⟨y, hy, htext, hval⟩ := hitems i x' hx'
      refine ⟨y, hy, ?_, ?_⟩
      · split_ifs <;> simp [CheckItem_set, htext]
      · split_ifs with hi
        · simp [CheckItem_set, hi]
        · have hle : n ≤ i ↔ n + 1 ≤ i := by omega
          simp only [hval, hle]

/-- Setting one row of a panel whose rows are all clear checks that row alone. -/
theorem setCheckAt_true_iff {p q : Panel CheckItem} {m : ℕ} (hm : m < p.items.length)
    (hclear : ∀ (i : ℕ) (x : CheckItem), p.items[i]? = some x → x.value = false)
    (h : setCheckAt p m true = some q) :
    q.items.length = p.items.length ∧ q.selected = p.selected ∧
      ∀ (i : ℕ) (x : CheckItem), q.items[i]? = some x → (x.value = true ↔ i = m) := by
  rw [setCheckAt_eq hm] at h
  cases h
  refine ⟨by simp, rfl, fun i x hx => ?_⟩
  simp only [Panel.setItems_items, List.getElem?_modify] at hx
  obtain ⟨x', hx', rfl⟩ := Option.map_eq_some'.mp hx
  split_ifs with hi
  · simp [CheckItem_set, hi]
  · simp [hclear i x' hx', Ne.symm hi]

/-- The panel `ColorsPanel_new` builds has the seven scheme rows. -/
@[simp] theorem colorSchemeItems_length : colorSchemeItems.items.length = LAST_COLORSCHEME := by
  decide

/-- **The new panel.**  For a scheme in range, `ColorsPanel_new` passes its assertions and
checks the row of the scheme alone. -/
theorem ColorsPanel_new_inv (settings : Settings)
    (hcs : 0 ≤ settings.colorScheme ∧ settings.colorScheme < LAST_COLORSCHEME) :
    ∃ this, ColorsPanel_new settings = some this ∧ ColorsInv this := by
  obtain ⟨m, hm⟩ : ∃ m : ℕ, settings.colorScheme = m := ⟨settings.colorScheme.toNat, by omega⟩
  have hmlt : m < colorSchemeItems.items.length := by simp; omega
  have hclear : ∀ (i : ℕ) (x : CheckItem), colorSchemeItems.items[i]? = some x →
      x.value = false := by
    have hall : ∀ x ∈ colorSchemeItems.items, x.value = false := by decide
    exact fun i x hx => hall x (List.getElem?_mem hx)
  obtain ⟨q, hq⟩ : ∃ q, setCheckAt colorSchemeItems m true = some q :=
    ⟨_, setCheckAt_eq hmlt true⟩
  obtain ⟨hlen, -, hiff⟩ := setCheckAt_true_iff hmlt hclear hq
  refine ⟨⟨q, settings⟩, by simp [ColorsPanel_new, hm, hq]; decide,
    ⟨by simp [hlen], hcs.1, hcs.2, fun i x hx => ?_⟩⟩
  rw [hm, Int.ofNat_inj]
  exact hiff i x hx

/-- **One event on the colours page.**  From a panel with the invariant, the handler's
assertions hold, the invariant is kept, and either the event is ignored and nothing changes,
or it is handled and the terminal is on the scheme of the settings. -/
theorem ColorsPanel_eventHandler_inv (this : ColorsPanel) (crt : CRT) (ch : ℤ)
    (hinv : ColorsInv this) :
    ∃ r, ColorsPanel_eventHandler this crt ch = some r ∧ ColorsInv r.1 ∧
      (r = (this, crt, IGNORED) ∨
        r.2.2 = HANDLED ||| REDRAW ∧ r.1.settings.changed = true ∧ CrtSynced r.1 r.2.1) := by
  unfold ColorsPanel_eventHandler
  split
  · have hlen0 := hinv.length_eq
    have hmark : this.super.selected < LAST_COLORSCHEME := by
      have := this.super.selected_valid
      have : LAST_COLORSCHEME = 7 := rfl
      omega
    rw [if_pos ⟨by omega, hmark⟩]
    have hnames : ColorSchemeNames.length = this.super.items.length := by rw [hlen0]; rfl
    obtain ⟨q, hq, hsel, hlen, hq'⟩ := foldlM_setCheckAt_false _ this.super hnames.le
    have hclear : ∀ (i : ℕ) (x : CheckItem), q.items[i]? = some x → x.value = false := by
      intro i x hx
      obtain ⟨y, hy, -, hval⟩ := hq' i x hx
      simp [hval, hnames, Nat.not_le.mpr (List.getElem?_eq_some_iff.mp hy).1]
    obtain ⟨q', hq''⟩ : ∃ q', setCheckAt q this.super.selected true = some q' :=
      ⟨_, setCheckAt_eq (by omega) true⟩
    obtain ⟨hlen', -, hiff⟩ := setCheckAt_true_iff (by omega) hclear hq''
    refine ⟨(⟨q', { this.settings with colorScheme := this.super.selected, changed := true }⟩,
      CRT_setColors this.super.selected, HANDLED ||| REDRAW), ?_,
      ⟨by dsimp only; omega, by dsimp only; omega, by dsimp only; omega, fun i x hx => ?_⟩,
      .inr ⟨rfl, rfl, rfl, rfl⟩⟩
    · simp [Panel_getSelectedIndex, hq, hq'']
    · dsimp only
      rw [Int.ofNat_inj]
      exact hiff i x hx
  · exact ⟨_, rfl, hinv, .inl rfl⟩

/-- Moving the selection keeps the invariant: it reads only the rows and the settings. -/
theorem ColorsInv.setSelected {this : ColorsPanel} (hinv : ColorsInv this) (i : ℤ) :
    ColorsInv { this with super := Panel_setSelected this.super i } :=
  ⟨by simpa using hinv.length_eq, hinv.scheme_nonneg, hinv.scheme_lt,
    by simpa using hinv.checked_iff⟩

/-- So does a navigation key (`Panel_onKey`). -/
theorem ColorsInv.onKey {this : ColorsPanel} (hinv : ColorsInv this) (ch : ℤ) :
    ColorsInv { this with super := (Panel_onKey this.super ch).1 } := by
  unfold Panel_onKey
  split
  · exact hinv.setSelected _
  · exact hinv

/-- **One event on the colours page.**  From a panel with the invariant, no event fails an
assertion, the invariant is kept, and either the event is ignored and the settings and the
terminal are as they were, or it is handled, `changed` is set and the terminal is on the
scheme of the settings. -/
theorem ColorsPanel_step_inv (s : ColorsPanel × CRT) (ev : ColorsEvent) (hinv : ColorsInv s.1) :
    ∃ r, ColorsPanel_step s ev = some r ∧ ColorsInv r.1 ∧
      (r.2.2 = IGNORED ∧ r.1.settings = s.1.settings ∧ r.2.1 = s.2 ∨
        r.2.2 = HANDLED ||| REDRAW ∧ r.1.settings.changed = true ∧ CrtSynced r.1 r.2.1) := by
  cases ev with
  | select i =>
    obtain ⟨r, hr, hinv', hcase⟩ := ColorsPanel_eventHandler_inv _ s.2 EVENT_SET_SELECTED
      (hinv.setSelected i)
    refine ⟨r, hr, hinv', ?_⟩
    rcases hcase with rfl | h
    · exact .inl ⟨rfl, rfl, rfl⟩
    · exact .inr h
  | key ch =>
    obtain ⟨r, hr, hinv', hcase⟩ := ColorsPanel_eventHandler_inv s.1 s.2 ch hinv
    refine ⟨r, hr, hinv', ?_⟩
    rcases hcase with rfl | h
    · exact .inl ⟨rfl, rfl, rfl⟩
    · exact .inr h

/-- Along a run from a panel with the invariant, no assertion fails and the invariant holds
at the end. -/
theorem ColorsPanel_run_inv (s : ColorsPanel × CRT) (hinv : ColorsInv s.1)
    (events : List ColorsEvent) :
    ∃ s', ColorsPanel_run s events = some s' ∧ ColorsInv s'.1 := by
  induction events generalizing s with
  | nil => exact ⟨s, rfl, hinv⟩
  | cons ev evs ih =>
    obtain ⟨r, hr, hinv', -⟩ := ColorsPanel_step_inv s ev hinv
    simpa [ColorsPanel_run, hr] using ih (r.1, r.2.1) hinv'

/-- **The colours page keeps the scheme consistent.**  From `ColorsPanel_new` on a scheme in
range, along every run of events (selection moves, whose index the panel keeps in range, and
keys) no assertion fails; after every event the one row checked is the row of the settings'
scheme; and after every handled event the terminal is on that scheme. -/
theorem colorsPanel_run_keeps_scheme (settings : Settings) (crt : CRT)
    (hcs : 0 ≤ settings.colorScheme ∧ settings.colorScheme < LAST_COLORSCHEME)
    (events : List ColorsEvent) :
    ∃ this, ColorsPanel_new settings = some this ∧
      ∃ s, ColorsPanel_run (this, crt) events = some s ∧ ColorsInv s.1 ∧
        ∀ ev, ∃ r, ColorsPanel_step s ev = some r ∧ ColorsInv r.1 ∧
          (r.2.2 &&& HANDLED ≠ 0 → CrtSynced r.1 r.2.1) := by
  obtain ⟨this, hnew, hinv⟩ := ColorsPanel_new_inv settings hcs
  obtain ⟨s, hrun, hinv'⟩ := ColorsPanel_run_inv (this, crt) hinv events
  refine ⟨this, hnew, s, hrun, hinv', fun ev => ?_⟩
  obtain ⟨r, hr, hinvr, ⟨hign, -⟩ | ⟨-, -, hsync⟩⟩ := ColorsPanel_step_inv s ev hinv'
  · exact ⟨r, hr, hinvr, fun h => absurd (hign ▸ h) (by decide)⟩
  · exact ⟨r, hr, hinvr, fun _ => hsync⟩

/-- The colours page opened on the default scheme, then "Kara gece" selected and confirmed
with space. -/
theorem colorsPanel_run_keeps_scheme_blackNight :
    (0 ≤ (0 : ℤ) ∧ (0 : ℤ) < LAST_COLORSCHEME) ∧
      ∃ this, ColorsPanel_new ⟨fun _ => false, fun _ => 0, 0, [], false⟩ = some this ∧
        ∃ s, ColorsPanel_run (this, ⟨0, 0⟩) [.select 5, .key (' '.toNat : ℤ)] = some s ∧
          ColorsInv s.1 ∧ ∀ ev, ∃ r, ColorsPanel_step s ev = some r ∧ ColorsInv r.1 ∧
            (r.2.2 &&& HANDLED ≠ 0 → CrtSynced r.1 r.2.1) :=
  ⟨by decide, colorsPanel_run_keeps_scheme ⟨fun _ => false, fun _ => 0, 0, [], false⟩ ⟨0, 0⟩
    (by decide) [.select 5, .key (' '.toNat : ℤ)]⟩

/-- That run leaves "Kara gece" in the settings and on the terminal. -/
example : ((ColorsPanel_new ⟨fun _ => false, fun _ => 0, 0, [], false⟩).bind fun this =>
    ColorsPanel_run (this, ⟨0, 0⟩) [.select 5, .key (' '.toNat : ℤ)]).map
      (fun s => (s.1.settings.colorScheme, s.1.settings.changed, s.2)) = some (5, true, ⟨5, 5⟩) := by
  decide

/-- **The colours handler flags its writes.**  An event the handler completes either leaves
the settings as they were or sets `changed`. -/
theorem ColorsPanel_eventHandler_flags (this : ColorsPanel) (crt : CRT) (ch : ℤ)
    {r : ColorsPanel × CRT × ℕ} (h : ColorsPanel_eventHandler this crt ch = some r) :
    r.1.settings = this.settings ∨ r.1.settings.changed = true := by
  unfold ColorsPanel_eventHandler at h
  split at h
  · dsimp only at h
    split at h
    · simp only [Option.bind_eq_bind, Option.bind_eq_some, Option.some.injEq] at h
      obtain ⟨_, -, _, -, rfl⟩ := h
      exact .inr rfl
    · cases h
  · cases h
    exact .inl rfl

end Htop

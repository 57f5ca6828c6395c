/-
# Panels, list items and key codes

The leaf components the handlers of `src/` are written against: the `ListItem` row, the
`Panel` viewport with its selection, the key codes and the `HandlerResult` a panel handler
returns.  `Panel.c`, `ListItem.c` and the headers that define these are not part of `src/`;
they are modelled from the spec (§3 "Panel state", §4.2 "Panel"), each such definition
saying so.

The spec's panel invariant, `0 <= selectedIndex < size(container)` whenever the panel is
non-empty and "no selection" otherwise, is a field of `Panel`: a panel whose selection points
past its rows cannot be built, so every later result inherits it.

Main facts:

* `Panel_getSelected_eq` : the selected row is `items[selected]?`;
* `Panel_setSelected_selected` : the clamping of `Panel_setSelected` keeps an in-range index;
* `Panel_onKey_items` : navigation never touches the rows.
-/
import Mathlib.Data.List.InsertIdx

namespace Htop

/-! ## Key codes -/

/-- Modelled from the spec: the key codes of ncurses and of `CRT.h`/`Panel.h`, none of which
is in `src/`.  Only that they are pairwise distinct, and distinct from the printable
characters, matters to the handlers modelled here. -/
def KEY_DOWN : ℤ := 0o402
/-- See `KEY_DOWN`. -/
def KEY_UP : ℤ := 0o403
/-- See `KEY_DOWN`. -/
def KEY_LEFT : ℤ := 0o404
/-- See `KEY_DOWN`. -/
def KEY_RIGHT : ℤ := 0o405
/-- See `KEY_DOWN`. -/
def KEY_HOME : ℤ := 0o406
/-- See `KEY_DOWN`; `KEY_F n` is ncurses' `KEY_F0 + n`. -/
def KEY_F (n : ℕ) : ℤ := 0o410 + n
/-- See `KEY_DOWN`. -/
def KEY_NPAGE : ℤ := 0o522
/-- See `KEY_DOWN`. -/
def KEY_PPAGE : ℤ := 0o523
/-- See `KEY_DOWN`. -/
def KEY_ENTER : ℤ := 0o527
/-- See `KEY_DOWN`. -/
def KEY_END : ℤ := 0o550
/-- See `KEY_DOWN`. -/
def KEY_MOUSE : ℤ := 0o631
/-- See `KEY_DOWN`: the synthetic key a click on the selected row produces. -/
def KEY_RECLICK : ℤ := KEY_F 22
/-- See `KEY_DOWN`: the key the screen manager makes of the mouse wheel turned up (mouse
button 4, which `CRT_init` enables, `src/CRT.c`, lines 850–851). -/
def KEY_WHEELUP : ℤ := KEY_F 20
/-- See `KEY_WHEELUP`: the wheel turned down (mouse button 5). -/
def KEY_WHEELDOWN : ℤ := KEY_F 21
/-- See `KEY_DOWN`: `KEY_CTRL(x)` is `x & 0x1f`. -/
def KEY_CTRL (c : Char) : ℤ := (c.toNat % 32 : ℕ)
/-- See `KEY_DOWN`: the event `Panel_setSelected` sends to the panel's own handler. -/
def EVENT_SET_SELECTED : ℤ := -1

/-- `isgraph` in the C locale: the printable characters other than space. -/
def isgraph (ch : ℤ) : Bool := 0x21 ≤ ch && ch ≤ 0x7e

/-! ## Handler results -/

/-- Modelled from the spec: the `HandlerResult` flags of `Panel.h` (not in `src/`), distinct
bits, as `HANDLED | REDRAW` in `ColorsPanel_eventHandler` needs. -/
def HANDLED : ℕ := 0x01
/-- See `HANDLED`. -/
def IGNORED : ℕ := 0x02
/-- See `HANDLED`. -/
def BREAK_LOOP : ℕ := 0x04
/-- See `HANDLED`. -/
def REDRAW : ℕ := 0x08

/-! ## List items -/

/-- A `ListItem` row: its label and its integer key (`ListItem_new(value, key)`). -/
structure ListItem where
  value : String
  key : ℤ
  deriving DecidableEq, Repr

/-- `ListItem_new`. -/
def ListItem_new (value : String) (key : ℤ) : ListItem := ⟨value, key⟩

/-! ## Panels -/

/-- A panel over rows of type `α`: the rows, the selected index, the height, and the prefix
`Panel_selectByTyping` keeps in `eventHandlerState`.  The selection is a row of the panel, or
`0` when the panel is empty (the spec's "no selection"). -/
structure Panel (α : Type) where
  items : List α
  selected : ℕ
  h : ℕ
  eventHandlerState : String
  /-- The spec's selection invariant: in range whenever the panel has rows. -/
  selected_valid : selected < items.length ∨ selected = 0

variable {α : Type}

/-- Modelled from the spec: `Panel_new`/`Panel_init` (Panel.c), an empty panel of height `h`. -/
def Panel_new (h : ℕ) : Panel α := ⟨[], 0, h, "", Or.inr rfl⟩

/-- `Panel_size`. -/
def Panel_size (p : Panel α) : ℕ := p.items.length

/-- `Panel_getSelectedIndex`. -/
def Panel_getSelectedIndex (p : Panel α) : ℕ := p.selected

/-- `Panel_get`; `Vector_get` asserts the index is in range, `none` stands for that. -/
def Panel_get (p : Panel α) (i : ℕ) : Option α := p.items[i]?

/-- Modelled from the spec: `Panel_getSelected` (Panel.c), the selected row, `NULL` on an
empty panel. -/
def Panel_getSelected (p : Panel α) : Option α :=
  if 0 < Panel_size p then p.items[p.selected]? else none

/-- The selected row is the row at the selected index. -/
theorem Panel_getSelected_eq (p : Panel α) : Panel_getSelected p = p.items[p.selected]? := by
  unfold Panel_getSelected Panel_size
  split
  · rfl
  · have : p.items = [] := List.eq_nil_of_length_eq_zero (by omega)
    simp [this]

/-- A panel with rows has a selected row. -/
theorem Panel_getSelected_isSome (p : Panel α) (hne : p.items ≠ []) :
    ∃ x, Panel_getSelected p = some x := by
  have hlen : 0 < p.items.length := List.length_pos.mpr hne
  rw [Panel_getSelected_eq, List.getElem?_eq_getElem (by have := p.selected_valid; omega)]
  exact ⟨_, rfl⟩

/-- The clamp of `Panel_setSelected`: an index past the end selects the last row, a
negative one the first. -/
def clampIndex (n : ℕ) (i : ℤ) : ℕ := (max (min i (n - 1 : ℤ)) 0).toNat

theorem clampIndex_valid (n : ℕ) (i : ℤ) : clampIndex n i < n ∨ clampIndex n i = 0 := by
  unfold clampIndex; omega

/-- A clamped index already in range is kept. -/
@[simp] theorem clampIndex_of_lt {n i : ℕ} (h : i < n) : clampIndex n i = i := by
  unfold clampIndex; omega

/-- Modelled from the spec: `Panel_setSelected` (Panel.c) stores the clamped index.  The call
`Panel_eventHandler(this, EVENT_SET_SELECTED)` that follows belongs to the panel's class; the
modules of the classes that react to it compose it after this. -/
def Panel_setSelected (p : Panel α) (i : ℤ) : Panel α :=
  { p with selected := clampIndex p.items.length i
           selected_valid := clampIndex_valid _ _ }

@[simp] theorem Panel_setSelected_items (p : Panel α) (i : ℤ) :
    (Panel_setSelected p i).items = p.items := rfl

theorem Panel_setSelected_selected (p : Panel α) {i : ℕ} (h : i < p.items.length) :
    (Panel_setSelected p i).selected = i := clampIndex_of_lt h

/-- `Panel_add`: a row appended, the selection kept. -/
def Panel_add (p : Panel α) (x : α) : Panel α :=
  { p with items := p.items ++ [x]
           selected_valid := by
             rcases p.selected_valid with h | h
             · exact Or.inl (by simp; omega)
             · exact Or.inr h }

@[simp] theorem Panel_add_items (p : Panel α) (x : α) : (Panel_add p x).items = p.items ++ [x] :=
  rfl

/-- Modelled from the spec: `Panel_insert` (Panel.c) puts a row at `i` and keeps the
selection. -/
def Panel_insert (p : Panel α) (i : ℕ) (x : α) : Panel α :=
  { p with items := p.items.insertIdx i x
           selected_valid := by
             rcases p.selected_valid with h | h
             · exact Or.inl (Nat.lt_of_lt_of_le h (List.length_le_length_insertIdx _ _ _))
             · exact Or.inr h }

/-- A panel whose rows are replaced by as many rows, the selection kept. -/
def Panel.setItems (p : Panel α) (items : List α) (h : items.length = p.items.length) :
    Panel α :=
  { p with items := items, selected_valid := h ▸ p.selected_valid }

@[simp] theorem Panel.setItems_items (p : Panel α) (items : List α) (h) :
    (p.setItems items h).items = items := rfl

@[simp] theorem Panel.setItems_selected (p : Panel α) (items : List α) (h) :
    (p.setItems items h).selected = p.selected := rfl

/-- The rows of a panel mapped row by row. -/
def Panel.map (p : Panel α) (f : α → α) : Panel α := p.setItems (p.items.map f) (by simp)

@[simp] theorem Panel.map_items (p : Panel α) (f : α → α) :
    (p.map f).items = p.items.map f := rfl

@[simp] theorem Panel.map_selected (p : Panel α) (f : α → α) :
    (p.map f).selected = p.selected := rfl

/-! ## Navigation -/

/-- `CRT_scrollWheelVAmount` (`src/CRT.c`, line 662): the rows one turn of the mouse wheel
moves. -/
def CRT_scrollWheelVAmount : ℤ := 10

/-- The selection a navigation key asks for, before clamping (`Panel_onKey`). -/
def navTarget (p : Panel α) (ch : ℤ) : Option ℤ :=
  if ch = KEY_DOWN ∨ ch = KEY_CTRL 'N' then some (p.selected + 1)
  else if ch = KEY_UP ∨ ch = KEY_CTRL 'P' then some (p.selected - 1)
  else if ch = KEY_PPAGE then some (p.selected - (p.h - 1 : ℤ))
  else if ch = KEY_NPAGE then some (p.selected + (p.h - 1 : ℤ))
  else if ch = KEY_HOME then some 0
  else if ch = KEY_END then some (p.items.length - 1)
  else if ch = KEY_WHEELUP then some (p.selected - CRT_scrollWheelVAmount)
  else if ch = KEY_WHEELDOWN then some (p.selected + CRT_scrollWheelVAmount)
  else none

/-- Modelled from the spec: `Panel_onKey` (Panel.c) translates the navigation keys
(up/down/page/home/end, and the mouse wheel) into a selection change, clamped into the rows;
it returns whether the key was one of them. -/
def Panel_onKey (p : Panel α) (ch : ℤ) : Panel α × Bool :=
  match navTarget p ch with
  | some i => (Panel_setSelected p i, true)
  | none => (p, false)

@[simp] theorem Panel_onKey_items (p : Panel α) (ch : ℤ) : (Panel_onKey p ch).1.items = p.items := by
  unfold Panel_onKey; split <;> rfl

/-- A key that is not a navigation key leaves the panel. -/
theorem Panel_onKey_of_navTarget {p : Panel α} {ch : ℤ} (h : navTarget p ch = none) :
    (Panel_onKey p ch).1 = p := by
  simp only [Panel_onKey, h]

/-- A key that leaves the selection leaves the panel: `Panel_onKey` changes nothing else. -/
theorem Panel_onKey_eq_self {p : Panel α} {ch : ℤ} (h : (Panel_onKey p ch).1.selected = p.selected) :
    (Panel_onKey p ch).1 = p := by
  revert h
  unfold Panel_onKey
  split
  · obtain ⟨items, selected, hgt, state, hv⟩ := p
    simp only [Panel_setSelected]
    intro h
    simp only [h]
  · exact fun _ => rfl

/-! ## Select by typing -/

/-- The first row whose label starts with `prefix`. -/
def findPrefix (labels : List String) (pfx : String) : Option ℕ :=
  labels.findIdx? (fun l => pfx.toList.isPrefixOf l.toList)

/-- Modelled from the spec: the search of `Panel_selectByTyping` (Panel.c), "jump to first
row whose label starts with the typed prefix, ... reset ... on non-matching input".  The
typed character extends the kept prefix; when no row matches, the prefix restarts from the
character alone, and when that fails too it is cleared.  Returns the prefix kept and the row
to jump to. -/
def typingTarget (labels : List String) (buffer : String) (ch : Char) : String × Option ℕ :=
  let typed := buffer.push ch
  match findPrefix labels typed with
  | some i => (typed, some i)
  | none =>
    match findPrefix labels (String.singleton ch) with
    | some i => (String.singleton ch, some i)
    | none => ("", none)

/-- Modelled from the spec: `Panel_selectByTyping(this, ch)` (Panel.c) on a panel of
`ListItem`s.  It keeps the prefix of `typingTarget` in `eventHandlerState` and, when a row
matches, selects it with `Panel_setSelected`, which re-enters the owner's handler with
`EVENT_SET_SELECTED`.  The owner makes that call, so the function returns the row it passed
to `Panel_setSelected` (`none` when no row matched) with the panel and the result:
`HANDLED` when the character moved to a row, `IGNORED` otherwise. -/
def Panel_selectByTyping (p : Panel ListItem) (ch : Char) : Panel ListItem × Option ℕ × ℕ :=
  let r := typingTarget (p.items.map (·.value)) p.eventHandlerState ch
  let p := { p with eventHandlerState := r.1 }
  match r.2 with
  | some i => (Panel_setSelected p i, some i, HANDLED)
  | none => (p, none, IGNORED)

@[simp] theorem Panel_selectByTyping_items (p : Panel ListItem) (ch : Char) :
    (Panel_selectByTyping p ch).1.items = p.items := by
  simp only [Panel_selectByTyping]; split <;> rfl

/-- Without a jump, select-by-typing leaves the selection where it was and ignores the key. -/
theorem Panel_selectByTyping_of_none {p : Panel ListItem} {ch : Char}
    (h : (Panel_selectByTyping p ch).2.1 = none) :
    (Panel_selectByTyping p ch).1.selected = p.selected ∧
      (Panel_selectByTyping p ch).2.2 = IGNORED := by
  revert h
  simp only [Panel_selectByTyping]; split <;> simp

/-- A jump of select-by-typing handles the key. -/
theorem Panel_selectByTyping_of_some {p : Panel ListItem} {ch : Char} {i : ℕ}
    (h : (Panel_selectByTyping p ch).2.1 = some i) : (Panel_selectByTyping p ch).2.2 = HANDLED := by
  revert h
  simp only [Panel_selectByTyping]; split <;> simp

end Htop

/-
# The terminal's colours

`CRT_setColors` (`src/CRT.c`, lines 892–913) points the terminal at a scheme and registers
its colour pairs with curses: a loop over the 8 × 8 foreground/background pairs, numbered by
`ColorIndex(i, j) = (7 - i) * 8 + j`, that skips the two pair numbers re-used for gray on
black and for white on the default background, and then the two of them.  `CRT_init`
(lines 759–857) starts the terminal on the scheme of the settings, or on the monochrome one
when the terminal has no colours.

The pair table is a map from pair numbers to `(foreground, background)`; `init_pair` writes one
entry, `-1` is the terminal's default colour.  The colours themselves are curses' `COLOR_*`.

Main results:

* `CRT_setColorPairs_apply` : the table the loops of `CRT_setColors` leave, in closed form:
  every pair `0 … 63` is registered, pair `ColorIndex(i, j)` with foreground `i`, and no other
  entry changes;
* `CRT_setColorPairs_colorIndex` : pair `ColorIndex(i, j)` shows foreground `i` on background
  `j`, black being the terminal's default but on Black Night;
* `CRT_setColorPairs_default_background` : the pairs that fall back to the terminal's
  background are white-on-default, and, off the Black Night scheme, gray on black and the
  pairs with a black background;
* `commandLine_CRT_init` : after the command line, the terminal starts on the monochrome
  scheme with `-C` or without colours, on the scheme of the settings file otherwise, with
  every pair registered when it has colours;
* `CRT_init_synced_iff` : the colours page and the terminal agree on the scheme at start
  exactly when the terminal has colours or the scheme is the monochrome one.
-/
import Htop.CommandLine

namespace Htop

/-! ## Colour pairs -/

/-- `COLOR_RED`. -/
def Red : ℤ := 1

/-- `COLOR_MAGENTA`. -/
def Magenta : ℤ := 5

/-- `COLOR_WHITE`. -/
def White : ℤ := 7

/-- `ColorIndex(i, j)`: the number of the pair of foreground `i` and background `j`. -/
def ColorIndex (i j : ℤ) : ℤ := (7 - i) * 8 + j

/-- `ColorIndexGrayBlack`, the pair number re-used for gray on black. -/
def ColorIndexGrayBlack : ℤ := ColorIndex Magenta Magenta

/-- `ColorIndexWhiteDefault`, the pair number re-used for white on the default background. -/
def ColorIndexWhiteDefault : ℤ := ColorIndex Red Red

/-- `COLORSCHEME_BLACKNIGHT` (`CRT.h`), the sixth entry of `ColorSchemeNames`. -/
def COLORSCHEME_BLACKNIGHT : ℤ := 5

/-- `init_pair(pair, f, b)`: the pair table with `pair` set to `(f, b)`. -/
def init_pair (pairs : ℤ → Option (ℤ × ℤ)) (pair f b : ℤ) : ℤ → Option (ℤ × ℤ) :=
  Function.update pairs pair (some (f, b))

/-- The background of pair `ColorIndex(i, j)`: black is the terminal's default (`-1`), but on
Black Night. -/
def pairBackground (colorScheme j : ℤ) : ℤ :=
  if colorScheme ≠ COLORSCHEME_BLACKNIGHT then (if j = 0 then -1 else j) else j

/-- One turn of the inner loop of `CRT_setColors`. -/
def setColorPair (colorScheme i j : ℤ) (pairs : ℤ → Option (ℤ × ℤ)) : ℤ → Option (ℤ × ℤ) :=
  if ColorIndex i j ≠ ColorIndexGrayBlack ∧ ColorIndex i j ≠ ColorIndexWhiteDefault then
    init_pair pairs (ColorIndex i j) i (pairBackground colorScheme j)
  else pairs

/-- The colour pairs `CRT_setColors(colorScheme)` registers, on a terminal with `COLORS`
colours. -/
def CRT_setColorPairs (COLORS colorScheme : ℤ) (pairs : ℤ → Option (ℤ × ℤ)) :
    ℤ → Option (ℤ × ℤ) :=
  let pairs := (List.range 8).foldl (fun pairs (i : ℕ) =>
    (List.range 8).foldl (fun pairs (j : ℕ) => setColorPair colorScheme i j pairs) pairs) pairs
  let grayBlackFg := if COLORS > 8 then 8 else 0
  let grayBlackBg := if colorScheme ≠ COLORSCHEME_BLACKNIGHT then -1 else 0
  let pairs := init_pair pairs ColorIndexGrayBlack grayBlackFg grayBlackBg
  init_pair pairs ColorIndexWhiteDefault White (-1)

/-- One turn of the inner loop writes pair `ColorIndex(i, j)` unless it is a re-used one. -/
theorem setColorPair_apply (colorScheme i j : ℤ) (pairs : ℤ → Option (ℤ × ℤ)) (k : ℤ) :
    setColorPair colorScheme i j pairs k =
      if k = ColorIndex i j ∧ k ≠ ColorIndexGrayBlack ∧ k ≠ ColorIndexWhiteDefault then
        some (i, pairBackground colorScheme j)
      else pairs k := by
  unfold setColorPair init_pair
  by_cases hk : k = ColorIndex i j
  · subst hk
    split_ifs <;> simp_all
  · rw [if_neg (show ¬(k = ColorIndex i j ∧ _) from fun h => hk h.1)]
    split_ifs <;> simp [Function.update_apply, hk]

/-- The inner loop over the first `n` backgrounds of foreground `i` writes the pairs
`ColorIndex(i, 0) … ColorIndex(i, n - 1)` but the two re-used ones. -/
theorem foldl_setColorPair (colorScheme i : ℤ) (n : ℕ) (pairs : ℤ → Option (ℤ × ℤ)) (k : ℤ) :
    (List.range n).foldl (fun pairs (j : ℕ) => setColorPair colorScheme i j pairs) pairs k =
      if ColorIndex i 0 ≤ k ∧ k < ColorIndex i n ∧ k ≠ ColorIndexGrayBlack ∧
          k ≠ ColorIndexWhiteDefault then
        some (i, pairBackground colorScheme (k - ColorIndex i 0))
      else pairs k := by
  induction n with
  | zero => exact (if_neg (by unfold ColorIndex; omega)).symm
  | succ n ih =>
    rw [List.range_succ n, List.foldl_append, List.foldl_cons, List.foldl_nil, setColorPair_apply,
      ih]
    by_cases hk : k = ColorIndex i n ∧ k ≠ ColorIndexGrayBlack ∧ k ≠ ColorIndexWhiteDefault
    · obtain ⟨rfl, hgb, hwd⟩ := hk
      rw [if_pos ⟨rfl, hgb, hwd⟩, if_pos ⟨by unfold ColorIndex; omega, by unfold ColorIndex; omega,
        hgb, hwd⟩, show ColorIndex i n - ColorIndex i 0 = n by unfold ColorIndex; omega]
    · rw [if_neg hk]
      exact if_congr (by unfold ColorIndex at hk ⊢; omega) rfl rfl

/-- The outer loop over the first `m` foregrounds writes the pairs `64 - 8m … 63` but the two
re-used ones, pair `k` with foreground `7 - k / 8` and background `k % 8`. -/
theorem foldl_setColorPairRow (colorScheme : ℤ) (m : ℕ) (pairs : ℤ → Option (ℤ × ℤ)) (k : ℤ) :
    (List.range m).foldl (fun pairs (i : ℕ) =>
        (List.range 8).foldl (fun pairs (j : ℕ) => setColorPair colorScheme i j pairs) pairs)
        pairs k =
      if 64 - 8 * m ≤ k ∧ k < 64 ∧ k ≠ ColorIndexGrayBlack ∧ k ≠ ColorIndexWhiteDefault then
        some (7 - k / 8, pairBackground colorScheme (k % 8))
      else pairs k := by
  induction m with
  | zero => exact (if_neg (by omega)).symm
  | succ m ih =>
    rw [List.range_succ m, List.foldl_append, List.foldl_cons, List.foldl_nil, foldl_setColorPair,
      ih]
    by_cases hk : ColorIndex m 0 ≤ k ∧ k < ColorIndex m (8 : ℕ) ∧ k ≠ ColorIndexGrayBlack ∧
        k ≠ ColorIndexWhiteDefault
    · unfold ColorIndex at hk ⊢
      rw [if_pos hk, if_pos (by omega), show (7 - k / 8 : ℤ) = m by omega,
        show k % 8 = k - ((7 - m) * 8 + 0) by omega]
    · rw [if_neg hk]
      exact if_congr (by unfold ColorIndex at hk; omega) rfl rfl

/-- **The colour pairs of a scheme.**  After `CRT_setColors`, pair `k` of `0 … 63` has
foreground `7 - k / 8` and the background of column `k % 8`, but the two re-used pairs, which
hold gray on black and white on the default background; every other entry of the table is as
it was. -/
theorem CRT_setColorPairs_apply (COLORS colorScheme : ℤ) (pairs : ℤ → Option (ℤ × ℤ)) (k : ℤ) :
    CRT_setColorPairs COLORS colorScheme pairs k =
      if k = ColorIndexWhiteDefault then some (White, -1)
      else if k = ColorIndexGrayBlack then
        some (if COLORS > 8 then 8 else 0, if colorScheme ≠ COLORSCHEME_BLACKNIGHT then -1 else 0)
      else if 0 ≤ k ∧ k < 64 then some (7 - k / 8, pairBackground colorScheme (k % 8))
      else pairs k := by
  simp only [CRT_setColorPairs, init_pair, Function.update_apply, foldl_setColorPairRow]
  by_cases hwd : k = ColorIndexWhiteDefault
  · rw [if_pos hwd, if_pos hwd]
  rw [if_neg hwd, if_neg hwd]
  by_cases hgb : k = ColorIndexGrayBlack
  · rw [if_pos hgb, if_pos hgb]
  rw [if_neg hgb, if_neg hgb]
  exact if_congr (by omega) rfl rfl

/-- Every pair `0 … 63` is registered, whatever the table held before. -/
theorem CRT_setColorPairs_isSome (COLORS colorScheme : ℤ) (pairs : ℤ → Option (ℤ × ℤ)) {k : ℤ}
    (hk : 0 ≤ k ∧ k < 64) : (CRT_setColorPairs COLORS colorScheme pairs k).isSome := by
  rw [CRT_setColorPairs_apply]
  split_ifs <;> rfl

/-- Pair `ColorIndex(i, j)` of two colours, but the re-used ones, shows `i` on `j` (on the
default background for black, but on Black Night). -/
theorem CRT_setColorPairs_colorIndex (COLORS colorScheme : ℤ) (pairs : ℤ → Option (ℤ × ℤ))
    {i j : ℤ} (hi : 0 ≤ i ∧ i < 8) (hj : 0 ≤ j ∧ j < 8) (hgb : ColorIndex i j ≠ ColorIndexGrayBlack)
    (hwd : ColorIndex i j ≠ ColorIndexWhiteDefault) :
    CRT_setColorPairs COLORS colorScheme pairs (ColorIndex i j) =
      some (i, pairBackground colorScheme j) := by
  rw [CRT_setColorPairs_apply, if_neg hwd, if_neg hgb, if_pos (by unfold ColorIndex; omega)]
  unfold ColorIndex
  rw [show 7 - ((7 - i) * 8 + j) / 8 = i by omega, show ((7 - i) * 8 + j) % 8 = j by omega]

/-- **Which pairs fall back to the terminal's background.**  Of the 64 pairs, those
`CRT_setColors` registers on the default background `-1` are white on default and, on every
scheme but Black Night, gray on black and the pairs of background black. -/
theorem CRT_setColorPairs_default_background (COLORS colorScheme : ℤ)
    (pairs : ℤ → Option (ℤ × ℤ)) {k : ℤ} (hk : 0 ≤ k ∧ k < 64) :
    (∃ f, CRT_setColorPairs COLORS colorScheme pairs k = some (f, -1)) ↔
      k = ColorIndexWhiteDefault ∨
        colorScheme ≠ COLORSCHEME_BLACKNIGHT ∧ (k = ColorIndexGrayBlack ∨ k % 8 = 0) := by
  rw [CRT_setColorPairs_apply]
  by_cases hwd : k = ColorIndexWhiteDefault
  · simp [hwd]
  rw [if_neg hwd]
  by_cases hgb : k = ColorIndexGrayBlack
  · have : ColorIndexGrayBlack ≠ ColorIndexWhiteDefault := by decide
    by_cases hbn : colorScheme = COLORSCHEME_BLACKNIGHT <;> simp [hgb, hbn, this]
  rw [if_neg hgb, if_pos hk]
  unfold pairBackground
  by_cases hbn : colorScheme = COLORSCHEME_BLACKNIGHT <;> by_cases h0 : k % 8 = 0 <;>
    simp [hwd, hgb, hbn, h0] <;> omega

/-! ## Starting the terminal -/

/-- The colours `CRT_init(settings, allowUnicode)` starts the terminal with: the scheme of the
settings, or the monochrome one when the terminal has no colours (`has_colors()`), set by
`CRT_setColors`.  Its pairs are registered only on a terminal with colours: `init_pair` does
nothing before `start_color()`, which `CRT_init` calls only then.  `CRT_init` first takes the
row `CRT_colorSchemes[settings->colorScheme]`, undefined for a scheme outside the table:
`none`. -/
def CRT_init (settings : Settings) (has_colors : Bool) (COLORS : ℤ)
    (pairs : ℤ → Option (ℤ × ℤ)) : Option (CRT × (ℤ → Option (ℤ × ℤ))) :=
  if 0 ≤ settings.colorScheme ∧ settings.colorScheme < LAST_COLORSCHEME then
    let colorScheme := if !has_colors then COLORSCHEME_MONOCHROME else settings.colorScheme
    some (CRT_setColors colorScheme,
      if has_colors then CRT_setColorPairs COLORS colorScheme pairs else pairs)
  else none

/-- `CRT_init` on a scheme in range: the terminal's scheme, and its pairs. -/
theorem CRT_init_eq {settings : Settings} (hcs : 0 ≤ settings.colorScheme ∧
    settings.colorScheme < LAST_COLORSCHEME) (has_colors : Bool) (COLORS : ℤ)
    (pairs : ℤ → Option (ℤ × ℤ)) :
    CRT_init settings has_colors COLORS pairs =
      some (CRT_setColors (if !has_colors then COLORSCHEME_MONOCHROME else settings.colorScheme),
        if has_colors then CRT_setColorPairs COLORS settings.colorScheme pairs else pairs) := by
  cases has_colors <;> simp [CRT_init, hcs]

/-- **The terminal after the command line.**  From a settings file whose scheme is one of the
seven, for every flags and every `Settings_setSortKey` that keeps the scheme, `CRT_init`
succeeds on the settings `CommandLine_run` writes: the terminal is on the monochrome scheme
with `-C` or without colours, on the scheme of the file otherwise, and every pair `0 … 63` is
registered when it has colours. -/
theorem commandLine_CRT_init {Settings_setSortKey : Settings → ℤ → Settings}
    (hsort : ∀ s k, (Settings_setSortKey s k).colorScheme = s.colorScheme)
    (flags : CommandLineSettings) (settings : Settings)
    (hcs : 0 ≤ settings.colorScheme ∧ settings.colorScheme < LAST_COLORSCHEME)
    (has_colors : Bool) (COLORS : ℤ) (pairs : ℤ → Option (ℤ × ℤ)) :
    ∃ pairs', CRT_init (CommandLine_applyFlags Settings_setSortKey flags settings) has_colors
        COLORS pairs =
      some (CRT_setColors (if !flags.useColors || !has_colors then COLORSCHEME_MONOCHROME
        else settings.colorScheme), pairs') ∧
      (has_colors = true → ∀ k, 0 ≤ k → k < 64 → (pairs' k).isSome) := by
  have hcs' := CommandLine_applyFlags_colorScheme_eq hsort flags settings
  have hrange : 0 ≤ (CommandLine_applyFlags Settings_setSortKey flags settings).colorScheme ∧
      (CommandLine_applyFlags Settings_setSortKey flags settings).colorScheme <
        LAST_COLORSCHEME := by
    rw [hcs']; split
    · exact ⟨by decide, by decide⟩
    · exact hcs
  refine ⟨if has_colors then CRT_setColorPairs COLORS
      (CommandLine_applyFlags Settings_setSortKey flags settings).colorScheme pairs else pairs,
    ?_, fun hc k h0 h64 => ?_⟩
  · rw [CRT_init_eq hrange, hcs']
    cases flags.useColors <;> cases has_colors <;> rfl
  · simp only [hc, if_true]
    exact CRT_setColorPairs_isSome _ _ _ ⟨h0, h64⟩

/-- **The colours page and the terminal at start.**  When the colours page opens on the
settings `CRT_init` started the terminal with, the two agree on the scheme exactly when the
terminal has colours or the scheme is monochrome: on a terminal without colours, the page
checks the scheme of the settings while the terminal shows the monochrome one. -/
theorem CRT_init_synced_iff {settings : Settings} {has_colors : Bool} {COLORS : ℤ}
    {pairs pairs' : ℤ → Option (ℤ × ℤ)} {this : ColorsPanel} {crt : CRT}
    (hnew : ColorsPanel_new settings = some this)
    (hinit : CRT_init settings has_colors COLORS pairs = some (crt, pairs')) :
    CrtSynced this crt ↔ has_colors = true ∨ settings.colorScheme = COLORSCHEME_MONOCHROME := by
  have hcs : 0 ≤ settings.colorScheme ∧ settings.colorScheme < LAST_COLORSCHEME := by
    by_contra h
    simp [CRT_init, h] at hinit
  rw [CRT_init_eq hcs, Option.some.injEq, Prod.mk.injEq] at hinit
  rw [CrtSynced, ColorsPanel_new_settings hnew, ← hinit.1]
  cases has_colors <;> simp [CRT_setColors, eq_comm]

/-- On a terminal without colours, the default settings start the terminal on the monochrome
scheme while the colours page checks the default one. -/
example : (CRT_init ⟨fun _ => false, fun _ => 0, 0, [], false⟩ false 8 (fun _ => none)).map
    Prod.fst = some ⟨COLORSCHEME_MONOCHROME, COLORSCHEME_MONOCHROME⟩ := by
  decide

end Htop

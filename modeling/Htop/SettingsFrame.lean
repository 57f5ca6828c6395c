/-
# No settings change goes unflagged

The driver persists the settings when `settings->changed` is set or a handler returns
`HTOP_SAVE_SETTINGS`.  This module collects, for the whole program modelled, that every
change of a setting is flagged one of these ways: by the handlers of the key table (but
`actionSetup`, whose meters and columns pages are outside `src/`) and by the handlers of the
display options and colours pages.  The main loop over these handlers is in `MainLoop.lean`.

Main result:

* `settings_changes_flagged` : every handler of the key table but `actionSetup`, and every
  event of the two setup pages, flags each change it makes to the settings.
-/
import Htop.Bindings
import Htop.ColorsPanel
import Htop.DisplayOptionsPanel

namespace Htop

/-- **Every settings change is flagged.**  In every state, every handler `Action_setBindings`
installs other than `actionSetup` that changes a field of the settings leaves `changed` set or
returns `HTOP_SAVE_SETTINGS`; and every event that the display options handler (for every
behaviour of the number items) or the colours handler completes, and that changes a field of
the settings, leaves `changed` set. -/
theorem settings_changes_flagged :
    (∀ (ch : ℤ) (a : Htop_Action), Action_setBindings (fun _ => none) ch = some a →
      a ≠ .actionSetup → ∀ (ext : Extern) (st : State),
        SettingsChangeFlagged st.settings (a.run ext st).1.settings (a.run ext st).2) ∧
    (∀ (numberOp : NumberItemOp → ℤ → ℤ → ℤ → ℤ → ℤ) (this : DisplayOptionsPanel) (ch : ℤ)
      (r : DisplayOptionsPanel × ℕ), DisplayOptionsPanel_eventHandler numberOp this ch = some r →
        r.1.settings ≠ this.settings → r.1.settings.changed = true) ∧
    (∀ (this : ColorsPanel) (crt : CRT) (ch : ℤ) (r : ColorsPanel × CRT × ℕ),
      ColorsPanel_eventHandler this crt ch = some r →
        r.1.settings ≠ this.settings → r.1.settings.changed = true) := by
  refine ⟨fun _ a _ ha ext st => action_run_flagged ext st a ha, fun _ this ch r h hne => ?_,
    fun this crt ch r h hne => (ColorsPanel_eventHandler_flags this crt ch h).resolve_left hne⟩
  rcases (DisplayOptionsPanel_eventHandler_frame this ch h).2 with rfl | ⟨-, hchanged, -⟩
  · exact absurd rfl hne
  · exact hchanged

end Htop

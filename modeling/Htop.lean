import Htop.Panel
import Htop.Settings
import Htop.Process
import Htop.State
import Htop.Pick
import Htop.TagAllChildren
import Htop.Action
import Htop.ActionPick
import Htop.Bindings
import Htop.CategoriesPanel
import Htop.ColorsPanel
import Htop.DisplayOptionsPanel
import Htop.SettingsFrame
import Htop.MainLoop
import Htop.CommandLine
import Htop.Terminal
import Htop.Session
import Htop.SetupScreen

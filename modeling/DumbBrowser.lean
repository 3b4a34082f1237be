import DumbBrowser.Net.PurifiedQuery
import DumbBrowser.PrivacyGuard.RuleExceptions
import DumbBrowser.Browser.HeadersReceived
import DumbBrowser.Browser.RestartCompletion
import DumbBrowser.Browser.NestedCallbacks
import DumbBrowser.Browser.PausedReceiver
import DumbBrowser.Browser.RecreatedLoader
import DumbBrowser.Browser.DownstreamVeto
import DumbBrowser.Browser.TransparentHeaders
import DumbBrowser.Scripts.RegeneratedPatches
import DumbBrowser.Scripts.ScriptReports
import DumbBrowser.Scripts.AppliedPatches
import DumbBrowser.Scripts.PatchWorkflow
import DumbBrowser.Canvas.PixelCap
import DumbBrowser.Browser.CompleteMediation
import DumbBrowser.Browser.HandshakeStages
import DumbBrowser.Scripts.SetPrograms
import DumbBrowser.Ui.TabIndicator
import DumbBrowser.Browser.ProfileProxies

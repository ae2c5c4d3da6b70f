import PluginAudit.Main
import PluginAudit.Proofs.CommandLine.Formats
import PluginAudit.Proofs.CommandLine.Reports
import PluginAudit.Proofs.Document.Sessions
import PluginAudit.Proofs.Feature.NamedEditions
import PluginAudit.Proofs.Feature.Uses
import PluginAudit.Proofs.Plugin.Agreement
import PluginAudit.Proofs.Plugin.Async
import PluginAudit.Proofs.Plugin.Comments
import PluginAudit.Proofs.Plugin.Destructuring
import PluginAudit.Proofs.Plugin.Editions
import PluginAudit.Proofs.Plugin.EntryShapes
import PluginAudit.Proofs.Plugin.Exports
import PluginAudit.Proofs.Plugin.Hashbang
import PluginAudit.Proofs.Plugin.LiteralRoots
import PluginAudit.Proofs.Plugin.PointEscapes
import PluginAudit.Proofs.Plugin.Positions
import PluginAudit.Proofs.Plugin.ReturnedCalls
import PluginAudit.Proofs.Plugin.ScriptFiles
import PluginAudit.Proofs.Plugin.Separators
import PluginAudit.Proofs.Plugin.TypeMarkers
import PluginAudit.Proofs.Plugin.Verdicts
import PluginAudit.Proofs.Plugin.Wrapper

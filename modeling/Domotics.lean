import Domotics.Message.Codec
import Domotics.CentralUnit
import Domotics.Dispatch
import Domotics.Command
import Domotics.Settings.Directory
import Domotics.Engine.Running
import Domotics.Report
import Domotics.CommandLine
import Domotics.Console
import Domotics.Main
import Domotics.Proofs.Tree.Preservation
import Domotics.Proofs.Engine.Subscriptions
import Domotics.Proofs.Message.RoundTrip
import Domotics.Proofs.Connection.Outgoing
import Domotics.Proofs.Connection.Incoming
import Domotics.Proofs.Engine.Provenance
import Domotics.Proofs.Refusal
import Domotics.Proofs.Message.Grammar
import Domotics.Proofs.Tree.Mirror
import Domotics.Proofs.Engine.Relaying
import Domotics.Proofs.Engine.Watching
import Domotics.Proofs.Reproduction
import Domotics.Proofs.Tree.Descent
import Domotics.Proofs.Tree.Removal
import Domotics.Proofs.Tree.Reannouncement
import Domotics.Proofs.Tree.Faults
import Domotics.Proofs.Tree.Marks
import Domotics.Proofs.Message.Canonical
import Domotics.Proofs.Tree.Repetition
import Domotics.Proofs.Message.Writing
import Domotics.Proofs.Text.Malformed
import Domotics.Proofs.Connection.Greeting
import Domotics.Proofs.Message.Recovery
import Domotics.Proofs.Engine.Obedience
import Domotics.Proofs.Engine.Turning
import Domotics.Proofs.Engine.Stopping
import Domotics.Proofs.Tree.Rendering
import Domotics.Proofs.Message.Announcement
import Domotics.Proofs.Engine.Attention
import Domotics.Proofs.Journal
import Domotics.Proofs.Command
import Domotics.Proofs.Report
import Domotics.Proofs.Settings
import Domotics.Proofs.Discretion

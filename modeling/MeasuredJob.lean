import MeasuredJob.Document.Parser
import MeasuredJob.Main
import MeasuredJob.Proofs.Composition.Persistence
import MeasuredJob.Proofs.Composition.Customized
import MeasuredJob.Proofs.Composition.Markers
import MeasuredJob.Proofs.Assembly.Contributors
import MeasuredJob.Proofs.Customization.Turns
import MeasuredJob.Proofs.Composition.Ownership
import MeasuredJob.Proofs.Composition.Guard
import MeasuredJob.Proofs.Options.ReadBack
import MeasuredJob.Proofs.Plugin.Registered
import MeasuredJob.Proofs.Plugin.Export
import MeasuredJob.Proofs.Composition.Replay
import MeasuredJob.Proofs.Composition.Rearrangement
import MeasuredJob.Proofs.Composition.Refusal
import MeasuredJob.Proofs.Assembly.Roster
import MeasuredJob.Proofs.Composition.Roster
import MeasuredJob.Proofs.Plugin.Fragments
import MeasuredJob.Proofs.Composition.View
import MeasuredJob.Proofs.Composition.Hostlist
import MeasuredJob.Proofs.Assembly.Monitors
import MeasuredJob.Proofs.Composition.Monitors
import MeasuredJob.Proofs.Assembly.Provenance
import MeasuredJob.Proofs.Composition.Fields
import MeasuredJob.Proofs.Composition.CommentBlock
import MeasuredJob.Proofs.Composition.Interactive
import MeasuredJob.Proofs.Plugin.FirstRefusal
import MeasuredJob.Proofs.Composition.FailFast
import MeasuredJob.Proofs.Customization.Decorating
import MeasuredJob.Proofs.Composition.Confinement
import MeasuredJob.Proofs.Assembly.Insertion
import MeasuredJob.Proofs.Composition.Mounting
import MeasuredJob.Proofs.CommandLine.ConfigMap
import MeasuredJob.Proofs.Plugin.OptionContract
import MeasuredJob.Proofs.Registry.Registration
import MeasuredJob.Proofs.Text.ByteOrder
import MeasuredJob.Proofs.Registry.Listing
import MeasuredJob.Proofs.Document.Shape
import MeasuredJob.Proofs.Document.Fields
import MeasuredJob.Proofs.Document.RoundTrip
import MeasuredJob.Proofs.Script.Regions
import MeasuredJob.Proofs.Composition.OneLine
import MeasuredJob.Proofs.Plugin.ProcessPattern
import MeasuredJob.Proofs.Options.Integer
import MeasuredJob.Proofs.Options.Writes
import MeasuredJob.Proofs.Composition.Placement
import MeasuredJob.Proofs.CommandLine.TextTable
import MeasuredJob.Proofs.Assembly.Merging
import MeasuredJob.Proofs.Assembly.Uniqueness

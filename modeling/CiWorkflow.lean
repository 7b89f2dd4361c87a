import CiWorkflow.Main
import CiWorkflow.Proofs.Config.RoundTrip
import CiWorkflow.Proofs.Store.Notification
import CiWorkflow.Proofs.Store.Revalidation
import CiWorkflow.Proofs.Workflow.Faithful
import CiWorkflow.Proofs.Yaml.Gap
import CiWorkflow.Proofs.Yaml.Plain
import CiWorkflow.Proofs.Yaml.Quoted
import CiWorkflow.Proofs.Workflow.Handed
import CiWorkflow.Proofs.Generation.Answer
import CiWorkflow.Proofs.Yaml.NodeFault
import CiWorkflow.Proofs.Cli.Configured
import CiWorkflow.Generation.Traffic
import CiWorkflow.Proofs.Generation.SingleFlight
import CiWorkflow.Proofs.Store.Atomicity
import CiWorkflow.Proofs.Config.Changes
import CiWorkflow.Proofs.Store.Coupling
import CiWorkflow.Proofs.Config.Batch
import CiWorkflow.Proofs.Store.Batch
import CiWorkflow.Proofs.Store.BuildArguments
import CiWorkflow.Proofs.Workflow.Outline
import CiWorkflow.Proofs.Generation.Secrecy
import CiWorkflow.Proofs.Config.Overrides
import CiWorkflow.Proofs.Config.Spellings
import CiWorkflow.Proofs.Cli.OneShot
import CiWorkflow.Proofs.Cli.Pieces
import CiWorkflow.Proofs.Cli.Emitted
import CiWorkflow.Proofs.Workflow.Verbatim
import CiWorkflow.Proofs.Cli.Output
import CiWorkflow.Proofs.Workflow.Target
import CiWorkflow.Proofs.Store.Toggles
import CiWorkflow.Proofs.Generation.Fences
import CiWorkflow.Proofs.Config.Warnings
import CiWorkflow.Proofs.Cli.Summary
import CiWorkflow.Proofs.Store.Subscriptions
import CiWorkflow.Proofs.Workflow.PagesFaithful
import CiWorkflow.Proofs.Generation.FailureLog
import CiWorkflow.Proofs.Prompt
import CiWorkflow.Proofs.Cli.Replaced
import CiWorkflow.Proofs.KeyValue
import CiWorkflow.Proofs.Json.Agreement

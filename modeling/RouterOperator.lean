import RouterOperator.Api.Client
import RouterOperator.Api.Discovery
import RouterOperator.Api.Event
import RouterOperator.Api.Request
import RouterOperator.Api.Response
import RouterOperator.Api.Target
import RouterOperator.Binary64.Basic
import RouterOperator.Binary64.Shortest
import RouterOperator.CommandLine.Arguments
import RouterOperator.CommandLine.Command
import RouterOperator.CommandLine.Options
import RouterOperator.Config.Render
import RouterOperator.Config.Stanza
import RouterOperator.Definition.FieldSchema
import RouterOperator.Definition.Fields
import RouterOperator.Definition.Resource
import RouterOperator.Dict
import RouterOperator.Duration
import RouterOperator.Error
import RouterOperator.Extension.Certificate
import RouterOperator.Extension.Route
import RouterOperator.Interconnect.Basic
import RouterOperator.Interconnect.Defaults
import RouterOperator.Interconnect.Listener
import RouterOperator.Interconnect.Plan
import RouterOperator.Interconnect.Routing
import RouterOperator.Interconnect.Spec
import RouterOperator.Interconnect.SslProfile
import RouterOperator.Interconnect.Status
import RouterOperator.Json.Basic
import RouterOperator.Json.MergePatch
import RouterOperator.Json.Number
import RouterOperator.Json.Reader
import RouterOperator.Json.Record
import RouterOperator.Json.Writer
import RouterOperator.Kind
import RouterOperator.Kubernetes.ConfigMap
import RouterOperator.Kubernetes.Container
import RouterOperator.Kubernetes.Ingress
import RouterOperator.Kubernetes.Kinded
import RouterOperator.Kubernetes.Metadata
import RouterOperator.Kubernetes.Pod
import RouterOperator.Kubernetes.Rbac
import RouterOperator.Kubernetes.Resources
import RouterOperator.Kubernetes.Service
import RouterOperator.Kubernetes.Workload
import RouterOperator.Main
import RouterOperator.Managed.Access
import RouterOperator.Managed.Certificates
import RouterOperator.Managed.Configuration
import RouterOperator.Managed.Exposure
import RouterOperator.Managed.Service
import RouterOperator.Managed.Workload
import RouterOperator.Operator.Context
import RouterOperator.Proofs.Action
import RouterOperator.Proofs.Alarms
import RouterOperator.Proofs.Api.Failures
import RouterOperator.Proofs.ByteOrder
import RouterOperator.Proofs.CertificateNames
import RouterOperator.Proofs.CertificateOrder
import RouterOperator.Proofs.CertificateSteps
import RouterOperator.Proofs.Certificates
import RouterOperator.Proofs.Checklist
import RouterOperator.Proofs.ConditionHistory
import RouterOperator.Proofs.Config.Attributes
import RouterOperator.Proofs.Config.Files
import RouterOperator.Proofs.Config.Profiles
import RouterOperator.Proofs.Config.Reading
import RouterOperator.Proofs.Config.Rendering
import RouterOperator.Proofs.Converged
import RouterOperator.Proofs.Convergence
import RouterOperator.Proofs.Deadline
import RouterOperator.Proofs.Decision
import RouterOperator.Proofs.Defaults
import RouterOperator.Proofs.Definition.Admission
import RouterOperator.Proofs.Definition.Clusters
import RouterOperator.Proofs.Drift
import RouterOperator.Proofs.Erasure
import RouterOperator.Proofs.FailedPhase
import RouterOperator.Proofs.Footprint
import RouterOperator.Proofs.Interference
import RouterOperator.Proofs.Keys
import RouterOperator.Proofs.LeafCertificates
import RouterOperator.Proofs.ListenerViews
import RouterOperator.Proofs.LostUpdate
import RouterOperator.Proofs.Milestones
import RouterOperator.Proofs.MissingMaterial
import RouterOperator.Proofs.Normalize
import RouterOperator.Proofs.OneWorkload
import RouterOperator.Proofs.Order
import RouterOperator.Proofs.Ownership
import RouterOperator.Proofs.Pass
import RouterOperator.Proofs.Plan
import RouterOperator.Proofs.PodCount
import RouterOperator.Proofs.PodReport
import RouterOperator.Proofs.Program
import RouterOperator.Proofs.Progress
import RouterOperator.Proofs.Rollout
import RouterOperator.Proofs.Script
import RouterOperator.Proofs.Settling
import RouterOperator.Proofs.Shape
import RouterOperator.Proofs.StatusReplacement
import RouterOperator.Proofs.StatusWays
import RouterOperator.Proofs.Steps
import RouterOperator.Proofs.Store.Accounts
import RouterOperator.Proofs.Store.Calls
import RouterOperator.Proofs.Store.Commuting
import RouterOperator.Proofs.Store.Fresh
import RouterOperator.Proofs.Store.Histories
import RouterOperator.Proofs.Store.Listing
import RouterOperator.Proofs.Store.Objects
import RouterOperator.Proofs.Store.Passes
import RouterOperator.Proofs.Store.Plans
import RouterOperator.Proofs.Store.Runs
import RouterOperator.Proofs.Store.Strikes
import RouterOperator.Proofs.TlsGate
import RouterOperator.Proofs.Updates
import RouterOperator.Proofs.Volumes
import RouterOperator.Proofs.Wire.Dictionaries
import RouterOperator.Proofs.Wire.Fields
import RouterOperator.Proofs.Wire.MergePatches
import RouterOperator.Proofs.Wire.Metadata
import RouterOperator.Proofs.Wire.Plain
import RouterOperator.Proofs.Wire.Records
import RouterOperator.Proofs.Wire.RoundTrip
import RouterOperator.Proofs.Wire.StatusPatch
import RouterOperator.Proofs.Wire.Timestamps
import RouterOperator.Reconcile.Pass
import RouterOperator.Reconcile.Program
import RouterOperator.Schema.Api
import RouterOperator.Schema.Metadata
import RouterOperator.Schema.Object
import RouterOperator.Schema.Pod
import RouterOperator.Schema.Shape
import RouterOperator.Schema.Volume
import RouterOperator.Store.Memory
import RouterOperator.Store.Simulation
import RouterOperator.Text.Blank
import RouterOperator.Text.Digits
import RouterOperator.Text.FormEncoded
import RouterOperator.Text.Given
import RouterOperator.Text.Quoted
import RouterOperator.Text.Visible
import RouterOperator.Timestamp

import IngressPlane.Admission.Overlap
import IngressPlane.Admission.Review
import IngressPlane.Admission.ReviewRequest
import IngressPlane.Admission.Screening
import IngressPlane.Admission.Validator
import IngressPlane.Certificate.Basic
import IngressPlane.Certificate.Der
import IngressPlane.Certificate.DistinguishedName
import IngressPlane.Certificate.GeneralName
import IngressPlane.Certificate.Hostname
import IngressPlane.Certificate.Load
import IngressPlane.Certificate.Pem
import IngressPlane.Certificate.Timestamp
import IngressPlane.Certificate.X509
import IngressPlane.Checking.Checker
import IngressPlane.Checking.Command
import IngressPlane.Controller.Basic
import IngressPlane.Encoding.Base64
import IngressPlane.Encoding.Sha256
import IngressPlane.Files.Tree
import IngressPlane.Json.Basic
import IngressPlane.Json.Decode
import IngressPlane.Json.Number
import IngressPlane.Json.Printer
import IngressPlane.Json.Reader
import IngressPlane.Json.Token
import IngressPlane.Json.View
import IngressPlane.Json.Written
import IngressPlane.Metrics.AdmissionMetrics
import IngressPlane.Metrics.Exposition
import IngressPlane.Metrics.Tally
import IngressPlane.Metrics.WatchMetrics
import IngressPlane.Net.Address
import IngressPlane.Net.Uri
import IngressPlane.Policy.Authentication
import IngressPlane.Policy.Basic
import IngressPlane.Policy.Extract
import IngressPlane.Policy.Reader
import IngressPlane.Proofs.Admission.Credentials
import IngressPlane.Proofs.Admission.Overlap
import IngressPlane.Proofs.Admission.PasswordFiles
import IngressPlane.Proofs.Admission.Prepared
import IngressPlane.Proofs.Admission.Screening
import IngressPlane.Proofs.Admission.Takeover
import IngressPlane.Proofs.Certificate.Hostname
import IngressPlane.Proofs.Encoding.Sha256
import IngressPlane.Proofs.Files.Tree
import IngressPlane.Proofs.Json.Decode
import IngressPlane.Proofs.Json.Lexing
import IngressPlane.Proofs.Json.Numerals
import IngressPlane.Proofs.Json.Plain
import IngressPlane.Proofs.Json.RoundTrip
import IngressPlane.Proofs.Metrics.Holdings
import IngressPlane.Proofs.Net.Uri
import IngressPlane.Proofs.Policy.Authentication
import IngressPlane.Proofs.Policy.Canary
import IngressPlane.Proofs.Policy.PasswordMaps
import IngressPlane.Proofs.Policy.Reader
import IngressPlane.Proofs.Policy.Snippets
import IngressPlane.Proofs.Policy.WellFormed
import IngressPlane.Proofs.Resource.WireFormat
import IngressPlane.Proofs.Results
import IngressPlane.Proofs.Routing.Checksum
import IngressPlane.Proofs.Routing.Document
import IngressPlane.Proofs.Routing.Told
import IngressPlane.Proofs.Store.Changes
import IngressPlane.Proofs.Store.Endpoints
import IngressPlane.Proofs.Store.Keyed
import IngressPlane.Proofs.Store.Listing
import IngressPlane.Proofs.Synthesis.AddedPath
import IngressPlane.Proofs.Synthesis.Affinity
import IngressPlane.Proofs.Synthesis.Alike
import IngressPlane.Proofs.Synthesis.Alternatives
import IngressPlane.Proofs.Synthesis.Apart
import IngressPlane.Proofs.Synthesis.Arranged
import IngressPlane.Proofs.Synthesis.Attachments
import IngressPlane.Proofs.Synthesis.BackendNames
import IngressPlane.Proofs.Synthesis.Backends
import IngressPlane.Proofs.Synthesis.Canaries
import IngressPlane.Proofs.Synthesis.CanaryOrder
import IngressPlane.Proofs.Synthesis.Convergence
import IngressPlane.Proofs.Synthesis.CookiePaths
import IngressPlane.Proofs.Synthesis.ExpandedKeys
import IngressPlane.Proofs.Synthesis.Expansion
import IngressPlane.Proofs.Synthesis.FirstCome
import IngressPlane.Proofs.Synthesis.FirstReference
import IngressPlane.Proofs.Synthesis.HostCertificates
import IngressPlane.Proofs.Synthesis.HostFields
import IngressPlane.Proofs.Synthesis.Hosts
import IngressPlane.Proofs.Synthesis.LeadAlike
import IngressPlane.Proofs.Synthesis.Names
import IngressPlane.Proofs.Synthesis.OwnLocations
import IngressPlane.Proofs.Synthesis.OwnPolicies
import IngressPlane.Proofs.Synthesis.Ownership
import IngressPlane.Proofs.Synthesis.Passthrough
import IngressPlane.Proofs.Synthesis.PathTypes
import IngressPlane.Proofs.Synthesis.References
import IngressPlane.Proofs.Synthesis.Remerge
import IngressPlane.Proofs.Synthesis.RemovedOwners
import IngressPlane.Proofs.Synthesis.Selection
import IngressPlane.Proofs.Synthesis.Snippets
import IngressPlane.Proofs.Synthesis.StandBy
import IngressPlane.Proofs.Synthesis.StandIns
import IngressPlane.Proofs.Synthesis.Timeless
import IngressPlane.Proofs.Synthesis.Winners
import IngressPlane.Proofs.Synthesis.Wired
import IngressPlane.Proofs.Synthesis.Wiring
import IngressPlane.Proofs.Tables
import IngressPlane.Proofs.Text.Items
import IngressPlane.Proofs.Texts
import IngressPlane.Resource.Ingress
import IngressPlane.Resource.Meta
import IngressPlane.Resource.PathType
import IngressPlane.Resource.Secret
import IngressPlane.Resource.Service
import IngressPlane.Routing.Backend
import IngressPlane.Routing.Configuration
import IngressPlane.Routing.Endpoint
import IngressPlane.Routing.RoutedIngress
import IngressPlane.Routing.Settings
import IngressPlane.Routing.VirtualHost
import IngressPlane.Shell.Arithmetic
import IngressPlane.Shell.Builtins
import IngressPlane.Shell.Calculation
import IngressPlane.Shell.Condition
import IngressPlane.Shell.CountedCondition
import IngressPlane.Shell.Expansion
import IngressPlane.Shell.FilePrograms
import IngressPlane.Shell.Filters
import IngressPlane.Shell.Format
import IngressPlane.Shell.Glob
import IngressPlane.Shell.Machine
import IngressPlane.Shell.Octets
import IngressPlane.Shell.Options
import IngressPlane.Shell.Parser
import IngressPlane.Shell.Pattern
import IngressPlane.Shell.PerlPattern
import IngressPlane.Shell.Programs
import IngressPlane.Shell.Quotation
import IngressPlane.Shell.Redirect
import IngressPlane.Shell.Regex
import IngressPlane.Shell.Run
import IngressPlane.Shell.Search
import IngressPlane.Shell.Signals
import IngressPlane.Shell.Source
import IngressPlane.Shell.StreamEditor
import IngressPlane.Shell.StreamScript
import IngressPlane.Shell.Syntax
import IngressPlane.Shell.Variables
import IngressPlane.Store.Basic
import IngressPlane.Store.Listing
import IngressPlane.Store.Resolve
import IngressPlane.Store.Watch
import IngressPlane.Synthesis.Backends
import IngressPlane.Synthesis.Canary
import IngressPlane.Synthesis.Certificates
import IngressPlane.Synthesis.Diagnostic
import IngressPlane.Synthesis.Draft
import IngressPlane.Synthesis.Expansion
import IngressPlane.Synthesis.Hosts
import IngressPlane.Synthesis.Locations
import IngressPlane.Synthesis.Passthrough
import IngressPlane.Synthesis.StandIns
import IngressPlane.Synthesis.Synthesize
import IngressPlane.Table
import IngressPlane.Table.Lemmas
import IngressPlane.Text.AsciiCase
import IngressPlane.Text.Blank
import IngressPlane.Text.CaseTable
import IngressPlane.Text.Decimal
import IngressPlane.Text.LowerCase
import IngressPlane.Text.Printable
import IngressPlane.Text.Quoted
import IngressPlane.Text.Search
import IngressPlane.Text.Utf8
import IngressPlane.Time.Calendar
import IngressPlane.Time.Instant

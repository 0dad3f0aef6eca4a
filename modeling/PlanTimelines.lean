import PlanTimelines.Action
import PlanTimelines.Assembly
import PlanTimelines.Console.Banner
import PlanTimelines.Console.Colour
import PlanTimelines.Console.Report
import PlanTimelines.Conversion
import PlanTimelines.Decimal.Rounded
import PlanTimelines.Decimal.Shortest
import PlanTimelines.Domain
import PlanTimelines.Draft
import PlanTimelines.Draft.Indexed
import PlanTimelines.Draft.State
import PlanTimelines.Error
import PlanTimelines.Example.Conflicts
import PlanTimelines.Example.Declarations
import PlanTimelines.Example.Kitchen
import PlanTimelines.Example.Lamps
import PlanTimelines.Example.Rovers
import PlanTimelines.Example.Scouts
import PlanTimelines.Example.Switch
import PlanTimelines.Instance
import PlanTimelines.Json
import PlanTimelines.Json.Decode
import PlanTimelines.Json.Encode
import PlanTimelines.Log
import PlanTimelines.Problem
import PlanTimelines.Problem.Format
import PlanTimelines.Product
import PlanTimelines.Proofs.Acceptance
import PlanTimelines.Proofs.AcceptedActions
import PlanTimelines.Proofs.ActionChains
import PlanTimelines.Proofs.ActionInstances
import PlanTimelines.Proofs.ActionOrder
import PlanTimelines.Proofs.ActionReading
import PlanTimelines.Proofs.ActionTiming
import PlanTimelines.Proofs.DraftConsistency
import PlanTimelines.Proofs.DraftNames
import PlanTimelines.Proofs.EndConditions
import PlanTimelines.Proofs.EnteredActions
import PlanTimelines.Proofs.EnteredDraft
import PlanTimelines.Proofs.EnteredSupply
import PlanTimelines.Proofs.Entering
import PlanTimelines.Proofs.EnteringTwice
import PlanTimelines.Proofs.Enumeration
import PlanTimelines.Proofs.ExportedText
import PlanTimelines.Proofs.FluentKeys
import PlanTimelines.Proofs.FreshDraft
import PlanTimelines.Proofs.Goals
import PlanTimelines.Proofs.GroundInstances
import PlanTimelines.Proofs.IndexedDraft
import PlanTimelines.Proofs.InitialValues
import PlanTimelines.Proofs.Instances
import PlanTimelines.Proofs.JsonText
import PlanTimelines.Proofs.NameIndex
import PlanTimelines.Proofs.NamedRecords
import PlanTimelines.Proofs.Occurrences
import PlanTimelines.Proofs.OutputEdges
import PlanTimelines.Proofs.OutputReferences
import PlanTimelines.Proofs.ProblemParts
import PlanTimelines.Proofs.RedundantActions
import PlanTimelines.Proofs.RefusedActions
import PlanTimelines.Proofs.RefusedEntries
import PlanTimelines.Proofs.ResourceSupply
import PlanTimelines.Proofs.ResourceUses
import PlanTimelines.Proofs.ResourceWiring
import PlanTimelines.Proofs.Results
import PlanTimelines.Proofs.Separation
import PlanTimelines.Proofs.Slots
import PlanTimelines.Proofs.StableAnalysis
import PlanTimelines.Proofs.StateValues
import PlanTimelines.Proofs.StateVariables
import PlanTimelines.Proofs.Substitution
import PlanTimelines.Proofs.Subtypes
import PlanTimelines.Proofs.SupportedFluents
import PlanTimelines.Proofs.TokenTypes
import PlanTimelines.Proofs.WrittenTerms
import PlanTimelines.Records
import PlanTimelines.Registry
import PlanTimelines.Scan
import PlanTimelines.Settings
import PlanTimelines.Settings.File
import PlanTimelines.Settings.Format
import PlanTimelines.Settings.Toml
import PlanTimelines.Settings.Yaml
import PlanTimelines.Supply
import PlanTimelines.Synthesis
import PlanTimelines.Term
import PlanTimelines.Term.Format
import PlanTimelines.Term.Substitution
import PlanTimelines.Term.Text
import PlanTimelines.Text.Digits
import PlanTimelines.Text.Quoted
import PlanTimelines.Text.Unprintable
import PlanTimelines.Timeline
import PlanTimelines.Timeline.Condition
import PlanTimelines.Timeline.Export
import PlanTimelines.Timeline.Import
import PlanTimelines.Timeline.Reference
import PlanTimelines.Toml.Item
import PlanTimelines.Toml.Line
import PlanTimelines.Toml.Scalar
import PlanTimelines.Trace
import PlanTimelines.Transition
import PlanTimelines.Yaml.Cursor
import PlanTimelines.Yaml.Layout
import PlanTimelines.Yaml.Node
import PlanTimelines.Yaml.Scalar
import PlanTimelines.Yaml.Token

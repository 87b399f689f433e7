import Scenography.Text.Split
import Scenography.Text.Lower
import Scenography.Number.Authored
import Scenography.KeyMap
import Scenography.Journal
import Scenography.Json.Value
import Scenography.Json.Reading
import Scenography.Json.Writing
import Scenography.Markup.Document
import Scenography.Scene.Basic
import Scenography.RoadMap.Plane
import Scenography.Json.Coding
import Scenography.Scene.Coding.Scene
import Scenography.Catalog
import Scenography.Parameters
import Scenography.Cast
import Scenography.Feed
import Scenography.References
import Scenography.Staging.Entity
import Scenography.Staging.Position
import Scenography.Staging.Condition
import Scenography.Staging.Action
import Scenography.Staging.Document
import Scenography.CommandLine.Files
import Scenography.Main
import Scenography.Proofs.KeyMap
import Scenography.Proofs.Execution
import Scenography.Proofs.Readers
import Scenography.Proofs.Requests
import Scenography.Proofs.Cast
import Scenography.Proofs.Walk
import Scenography.Proofs.Opening
import Scenography.Proofs.Ownership
import Scenography.Proofs.Numbering
import Scenography.Proofs.Timelines
import Scenography.Proofs.Motion
import Scenography.Proofs.Doubles
import Scenography.Proofs.LaneChange
import Scenography.Proofs.References
import Scenography.Proofs.Awaiting
import Scenography.Proofs.Thinning
import Scenography.Proofs.DoubleOrder
import Scenography.Proofs.TimelineOrder
import Scenography.Proofs.Steps
import Scenography.Proofs.Allotment
import Scenography.Proofs.Enrolment
import Scenography.Proofs.Autonomy
import Scenography.Proofs.Walkers
import Scenography.Proofs.Approaches
import Scenography.Proofs.Routing
import Scenography.Proofs.Rerouting
import Scenography.Proofs.Json.Numbers
import Scenography.Proofs.Json.Values
import Scenography.Proofs.Json.Records
import Scenography.Proofs.Json.Texts
import Scenography.Proofs.Quantities
import Scenography.Proofs.Coding.Basic
import Scenography.Proofs.Coding.Entity
import Scenography.Proofs.Coding.Event
import Scenography.Proofs.Coding.Scene
import Scenography.Proofs.SceneText
import Scenography.Proofs.Inlined.Elements
import Scenography.Proofs.Inlined.Stories
import Scenography.Proofs.Inlined.Opening
import Scenography.Proofs.Inlining
import Scenography.Proofs.Finite.Values
import Scenography.Proofs.Finite.Opening
import Scenography.Proofs.Finite.Plane
import Scenography.Proofs.Finite.Scenes
import Scenography.Proofs.Finiteness
import Scenography.Proofs.Memo
import Scenography.Proofs.Explanations
import Scenography.Proofs.Identity
import Scenography.Proofs.Markup.Parts
import Scenography.Proofs.Markup.Runs
import Scenography.Proofs.Markup.Asides
import Scenography.Proofs.Markup.Reading
import Scenography.Proofs.Uncommenting
import Scenography.Proofs.Decimals
import Scenography.Proofs.NumberTexts
import Scenography.Proofs.TimelineArrangement
import Scenography.Proofs.CommandLine.Courses
import Scenography.Proofs.CommandLine.Keeping
import Scenography.Proofs.ProfileTexts
import Scenography.Proofs.Profiles
import Scenography.Proofs.Trimming
import Scenography.Proofs.Parameters
import Scenography.Proofs.Captures
import Scenography.Proofs.Commands
import Scenography.Proofs.Branches
import Scenography.Proofs.CompactTexts
import Scenography.Proofs.RouteTexts
import Scenography.Proofs.Troupes
import Scenography.Proofs.SignalPlans
import Scenography.Proofs.Resolutions
import Scenography.Proofs.TriggerCounts
import Scenography.Proofs.RoundTrips
import Scenography.Proofs.Words
import Scenography.Proofs.PositionSums

import Crossing.Decimal.Fixed
import Crossing.Format.Config
import Crossing.Format.Traffic
import Crossing.Json.Printer
import Crossing.Planner
import Crossing.Proofs.ArcLengths
import Crossing.Proofs.AreaSearches
import Crossing.Proofs.Calculations
import Crossing.Proofs.CrossSections
import Crossing.Proofs.CutPredictions
import Crossing.Proofs.Delivery
import Crossing.Proofs.EgoLane
import Crossing.Proofs.EitherWay
import Crossing.Proofs.FasterPassing
import Crossing.Proofs.FirstAreaHistory
import Crossing.Proofs.FlowOrder
import Crossing.Proofs.Footprint
import Crossing.Proofs.HalfTurns
import Crossing.Proofs.Headings
import Crossing.Proofs.HiddenPoints
import Crossing.Proofs.IndexRange
import Crossing.Proofs.InnerSpan
import Crossing.Proofs.LaneRuns
import Crossing.Proofs.LongerWays
import Crossing.Proofs.Lookups
import Crossing.Proofs.MeetingPoints
import Crossing.Proofs.NextLane
import Crossing.Proofs.Outlines
import Crossing.Proofs.PartialConfig
import Crossing.Proofs.PassingRules
import Crossing.Proofs.Reals
import Crossing.Proofs.RefusedCycle
import Crossing.Proofs.Relatives
import Crossing.Proofs.RememberedArea
import Crossing.Proofs.Repetition
import Crossing.Proofs.Resampling
import Crossing.Proofs.SampleStretches
import Crossing.Proofs.SearchEnds
import Crossing.Proofs.StopLineOrder
import Crossing.Proofs.Strides
import Crossing.Proofs.StuckRoom
import Crossing.Proofs.StuckVehicles
import Crossing.Proofs.Surroundings
import Crossing.Proofs.ThinnedPolylines
import Crossing.Proofs.WayLeft
import Crossing.Proofs.WaysInto
import Crossing.Scalar.Binary64

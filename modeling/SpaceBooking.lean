import SpaceBooking.Table
import SpaceBooking.Tally
import SpaceBooking.Text.Quoted
import SpaceBooking.Text.Blank
import SpaceBooking.Text.Decimal
import SpaceBooking.Time.Written
import SpaceBooking.Time.ZoneTable
import SpaceBooking.Time.Clock
import SpaceBooking.Series
import SpaceBooking.Event
import SpaceBooking.Policy
import SpaceBooking.Config
import SpaceBooking.Metric
import SpaceBooking.Store.Basic
import SpaceBooking.Rule
import SpaceBooking.Service.Repository
import SpaceBooking.Service.Approval
import SpaceBooking.Service.Lookup
import SpaceBooking.Notify.Hub
import SpaceBooking.Notify.Dispatcher
import SpaceBooking.Wire.Codec
import SpaceBooking.Wire.Text
import SpaceBooking.Proofs.Exchange
import SpaceBooking.Proofs.Replacement
import SpaceBooking.Proofs.Answers
import SpaceBooking.Proofs.Administration
import SpaceBooking.Proofs.Requests
import SpaceBooking.Proofs.SeriesRequests
import SpaceBooking.Proofs.Occurrences
import SpaceBooking.Proofs.Runs
import SpaceBooking.Proofs.DoubleBooking
import SpaceBooking.Proofs.DryRun
import SpaceBooking.Proofs.Decision
import SpaceBooking.Proofs.SeriesReport
import SpaceBooking.Proofs.SingleRequests
import SpaceBooking.Proofs.SeriesFailure
import SpaceBooking.Proofs.SeriesRemoval
import SpaceBooking.Proofs.GatedSpaces
import SpaceBooking.Proofs.Access
import SpaceBooking.Proofs.Effects
import SpaceBooking.Proofs.Tenants
import SpaceBooking.Proofs.Disclosure
import SpaceBooking.Proofs.EventLog
import SpaceBooking.Proofs.SpaceFeeds
import SpaceBooking.Proofs.UpcomingCap
import SpaceBooking.Proofs.ApprovalQueue
import SpaceBooking.Proofs.SeriesLinks
import SpaceBooking.Proofs.Operations
import SpaceBooking.Proofs.LocationCount
import SpaceBooking.Proofs.SeriesClock
import SpaceBooking.Proofs.Exclusion
import SpaceBooking.Proofs.Repetition
import SpaceBooking.Proofs.CivilDays
import SpaceBooking.Proofs.Decimals
import SpaceBooking.Proofs.Delivery
import SpaceBooking.Proofs.WrittenTimes
import SpaceBooking.Proofs.WireForms
import SpaceBooking.Proofs.WireRoundTrip
import SpaceBooking.Proofs.SeriesOrder
import SpaceBooking.Proofs.WholeDays
import SpaceBooking.Proofs.LongDays
import SpaceBooking.Proofs.Loosening
import SpaceBooking.Proofs.PaddedNames

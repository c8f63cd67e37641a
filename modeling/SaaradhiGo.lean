import SaaradhiGo.Lib.Transition
import SaaradhiGo.Lib.Table
import SaaradhiGo.Lib.Interleave
import SaaradhiGo.Lib.Json
import SaaradhiGo.Lib.Sha256
import SaaradhiGo.Money.Ref
import SaaradhiGo.Money.Wallet
import SaaradhiGo.Payouts.Withdrawal
import SaaradhiGo.Payouts.Dispatch
import SaaradhiGo.Payouts.Webhook
import SaaradhiGo.Payouts.Actions
import SaaradhiGo.Payouts.Lookup
import SaaradhiGo.Payouts.Account
import SaaradhiGo.Payouts.Books
import SaaradhiGo.Payouts.DispatchRefund
import SaaradhiGo.Payouts.Refunds
import SaaradhiGo.Payouts.Weekly
import SaaradhiGo.Payouts.WeeklyPaid
import SaaradhiGo.Payouts.DispatchRace
import SaaradhiGo.Settlement.Trip
import SaaradhiGo.Settlement.Promo
import SaaradhiGo.Settlement.Account
import SaaradhiGo.Settlement.Net
import SaaradhiGo.Payments.Payment
import SaaradhiGo.Payments.Locked
import SaaradhiGo.Payments.Entry
import SaaradhiGo.Payments.Completed
import SaaradhiGo.Payments.Captures
import SaaradhiGo.Payments.Deferred
import SaaradhiGo.Payments.Retried
import SaaradhiGo.Payments.Unsettled
import SaaradhiGo.Payments.Walk
import SaaradhiGo.Payments.Accounted
import SaaradhiGo.Payments.Answered
import SaaradhiGo.Payments.Remembered
import SaaradhiGo.Webhooks.Inbox
import SaaradhiGo.Webhooks.Once
import SaaradhiGo.AdminAudit.Entry
import SaaradhiGo.AdminAudit.Inspect
import SaaradhiGo.AdminAudit.Anchor
import SaaradhiGo.AdminAudit.Tamper
import SaaradhiGo.AdminAudit.Append
import SaaradhiGo.Lib.TableSum
import SaaradhiGo.Promotions.Budget
import SaaradhiGo.Lib.Fallible
import SaaradhiGo.Promotions.Redemption
import SaaradhiGo.Promotions.Counters
import SaaradhiGo.Promotions.Honoured
import SaaradhiGo.Approvals.Request
import SaaradhiGo.Approvals.Service
import SaaradhiGo.Approvals.Once
import SaaradhiGo.Approvals.Answered
import SaaradhiGo.AdminAccess.GeoNode
import SaaradhiGo.Lib.Window
import SaaradhiGo.Commission.Rule
import SaaradhiGo.Commission.Workflow
import SaaradhiGo.Commission.Windows
import SaaradhiGo.Commission.History
import SaaradhiGo.Commission.Notices
import SaaradhiGo.Commission.Raises
import SaaradhiGo.Fares.Card
import SaaradhiGo.Fares.History
import SaaradhiGo.Lib.Mirror
import SaaradhiGo.Rides.ActiveTrip
import SaaradhiGo.Rides.Settled
import SaaradhiGo.Lib.Span
import SaaradhiGo.Drivers.Presence
import SaaradhiGo.Drivers.Sessions
import SaaradhiGo.Lib.Python
import SaaradhiGo.Lib.PlainReader
import SaaradhiGo.Lib.Acyclic
import SaaradhiGo.Zones.Geometry
import SaaradhiGo.Zones.Values
import SaaradhiGo.Zones.Again
import SaaradhiGo.Zones.World
import SaaradhiGo.Zones.Workflow
import SaaradhiGo.Zones.Accepted
import SaaradhiGo.Zones.RoundTrip
import SaaradhiGo.Zones.Laws
import SaaradhiGo.Zones.Runs
import SaaradhiGo.Drivers.Fatigue
import SaaradhiGo.Lib.Rounding
import SaaradhiGo.Pricing.Quote
import SaaradhiGo.Pricing.Lines
import SaaradhiGo.Pricing.Reported
import SaaradhiGo.Pricing.Preview
import SaaradhiGo.Pricing.Driven
import SaaradhiGo.Pricing.PromoTax
import SaaradhiGo.Pricing.Booking
import SaaradhiGo.Pricing.Honoured
import SaaradhiGo.Lib.Decimal
import SaaradhiGo.CommandCentre.Threshold
import SaaradhiGo.PlatformOps.Setting
import SaaradhiGo.PlatformOps.Proposals
import SaaradhiGo.Notifications.Message
import SaaradhiGo.Notifications.Claimed
import SaaradhiGo.Notifications.Swept
import SaaradhiGo.Notifications.Delivery
import SaaradhiGo.Safety.Ended
import SaaradhiGo.Safety.Alerted
import SaaradhiGo.OperatorEnd.Charged
import SaaradhiGo.Pricing.SplitBack
import SaaradhiGo.PromoCodes.Apply
import SaaradhiGo.PromoCodes.Agreed
import SaaradhiGo.PromoCodes.Carried
import SaaradhiGo.Lib.Covered
import SaaradhiGo.Fraud.Flag
import SaaradhiGo.Fraud.Recovery
import SaaradhiGo.Fraud.Recovered
import SaaradhiGo.Promotions.Referrals
import SaaradhiGo.Promotions.Referred
import SaaradhiGo.Lib.Positions
import SaaradhiGo.Lib.Precision
import SaaradhiGo.Riders.Rating
import SaaradhiGo.Rides.Dispatch
import SaaradhiGo.Rides.Waves
import SaaradhiGo.Rides.Asked
import SaaradhiGo.Trail.Points
import SaaradhiGo.Trail.Replayed
import SaaradhiGo.Lib.ConsumerGroup
import SaaradhiGo.Trail.Stream
import SaaradhiGo.Trail.Drained
import SaaradhiGo.Zones.Rings
import SaaradhiGo.Rides.StartOtp
import SaaradhiGo.Lib.Text
import SaaradhiGo.AdminAccess.Masking
import SaaradhiGo.AdminAccess.MaskedAgain
import SaaradhiGo.AdminAccess.Hidden
import SaaradhiGo.AdminAudit.ReadBack
import SaaradhiGo.Rides.Liveness
import SaaradhiGo.Rides.Flagged
import SaaradhiGo.Safety.Timers
import SaaradhiGo.CommandCentre.Raised
import SaaradhiGo.Support.Ticket
import SaaradhiGo.Support.Waiting
import SaaradhiGo.Receipts.Issue
import SaaradhiGo.Receipts.Stated
import SaaradhiGo.Receipts.Terms
import SaaradhiGo.Lib.Ticks
import SaaradhiGo.Lib.Grouping
import SaaradhiGo.Lib.Rebuild
import SaaradhiGo.Reports.Compute
import SaaradhiGo.Reports.Conserved
import SaaradhiGo.Reports.Overlapped
import SaaradhiGo.Lib.Firsts
import SaaradhiGo.Reconciliation.Run
import SaaradhiGo.Reconciliation.Repeated
import SaaradhiGo.AdminAccess.Scoping
import SaaradhiGo.AdminAccess.Agreement
import SaaradhiGo.Payouts.Held
import SaaradhiGo.Lib.TwoPhase
import SaaradhiGo.Payouts.HeldSends
import SaaradhiGo.Rides.Lifecycle
import SaaradhiGo.Rides.Interleaved
import SaaradhiGo.Rides.Forward
import SaaradhiGo.Rides.Coherent
import SaaradhiGo.RiderWallet.Movements
import SaaradhiGo.RiderWallet.Writes
import SaaradhiGo.RiderWallet.Guarded
import SaaradhiGo.RiderWallet.Reviewed
import SaaradhiGo.RiderWallet.Books
import SaaradhiGo.Lib.Running
import SaaradhiGo.Payments.Statement
import SaaradhiGo.AuthUser.Phone
import SaaradhiGo.AuthUser.Doors
import SaaradhiGo.AuthUser.Opened

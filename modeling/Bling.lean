import Bling.Library.Table
import Bling.Library.Machine
import Bling.Library.Sweep
import Bling.Library.Draw
import Bling.Schema
import Bling.Fees
import Bling.TakeHome
import Bling.Clawback
import Bling.Ledger
import Bling.Payments
import Bling.Calls
import Bling.Shows
import Bling.Queue
import Bling.Refunds
import Bling.Webhooks
import Bling.Payouts
import Bling.Backend
import Bling.Stripe
import Bling.World
import Bling.Frames
import Bling.Effects
import Bling.Mutations
import Bling.WorldSteps
import Bling.Balances
import Bling.StripeSteps
import Bling.PayoutSafety
import Bling.PayoutKeys
import Bling.PayoutDates
import Bling.EarningsChart
import Bling.PayoutRuns
import Bling.Linked
import Bling.Seats
import Bling.InStep
import Bling.QueueInStep
import Bling.Jobs
import Bling.Lifecycle
import Bling.Intents
import Bling.Backing
import Bling.Captures
import Bling.Settlements
import Bling.Charges
import Bling.Declines
import Bling.QueueHolds
import Bling.RefundRows
import Bling.Entries
import Bling.Closing
import Bling.Releases
import Bling.Reports
import Bling.Sweeps
import Bling.RefundSweeps
import Bling.TransferSweeps
import Bling.Presence
import Bling.Watchdog
import Bling.Follows
import Bling.FollowCounts
import Bling.Signals
import Bling.Inbox
import Bling.Draws
import Bling.Api.Balance
import Bling.Api.MonthlyRun
import Bling.Api.Queue
import Bling.Api.RandomCaller
import Bling.Api.Stage
import Bling.Api.Transactions
import Bling.Api.Agreement
import Bling.Api.Rejoin
import Bling.Api.WebhookEvents
import Bling.Api.Transfers
import Bling.Api.Refunds
import Bling.Api.RefundProgress
import Bling.Api.Deadlines
import Bling.Api.Attendance
import Bling.Api.Outbox
import Bling.Api.QueueIndex
import Bling.Api.Sessions
import Bling.WebRTC.Manager
import Bling.WebRTC.HangUp
import Bling.WebRTC.SignalOrder
import Bling.WebRTC.Trickle
import Bling.Realtime.Rooms
import Bling.Realtime.Hubs
import Bling.Library.Paging
import Bling.Library.Groups
import Bling.Social.Site
import Bling.Social.SiteSteps
import Bling.Social.Mirror
import Bling.Social.Avatars
import Bling.Social.Channels
import Bling.Social.Recounts
import Bling.Social.LiveAlerts
import Bling.Social.OneAlert
import Bling.Social.Notifications
import Bling.Social.Pruning
import Bling.Library.SortedSet
import Bling.Realtime.PresenceStore
import Bling.Realtime.Leases
import Bling.Api.TransferLoop
import Bling.Api.QueuePages
import Bling.Api.LiveEventPaging
import Bling.Api.FollowerProjection
import Bling.Library.Numerals
import Bling.Library.Json
import Bling.Api.Directory
import Bling.Api.DirectoryPaging
import Bling.Disputes
import Bling.Earnings
import Bling.Overdrafts
import Bling.RefundOutcomes
import Bling.CommitOrder
import Bling.DisputeOrder
import Bling.Registry
import Bling.Redeliveries
import Bling.Openings
import Bling.WebRTC.Delivery
import Bling.Api.Onboarding
import Bling.Api.Shows

import AlbyHub.Interaction.Pool
import AlbyHub.Go.Numbers
import AlbyHub.Go.Text
import AlbyHub.Transactions.Once
import AlbyHub.Transactions.Runs
import AlbyHub.Transactions.Reservation
import AlbyHub.Db.Sums
import AlbyHub.Transactions.Solvency
import AlbyHub.Interaction.Solo
import AlbyHub.Transactions.Events
import AlbyHub.LnClient.Payments
import AlbyHub.LnClient.Amounts
import AlbyHub.Nip47.Controllers
import AlbyHub.Nip47.Isolation
import AlbyHub.Transactions.Budget
import AlbyHub.Nip47.Noninterference
import AlbyHub.Config.AesGcm
import AlbyHub.Config.Config
import AlbyHub.Config.Setup
import AlbyHub.Config.Coherence
import AlbyHub.Config.ChangePassword
import AlbyHub.Config.OnePassword
import AlbyHub.Apps.Registry
import AlbyHub.Apps.Service
import AlbyHub.Apps.Superuser
import AlbyHub.LnClient.LdkEvents
import AlbyHub.LnClient.Acknowledged
import AlbyHub.Swaps.Service
import AlbyHub.Swaps.ClaimFee
import AlbyHub.Swaps.Discipline
import AlbyHub.Swaps.Stops
import AlbyHub.Swaps.EndStates
import AlbyHub.Interaction.Machine
import AlbyHub.Swaps.Payment
import AlbyHub.Swaps.PaidOnce
import AlbyHub.Apps.SignMessage
import AlbyHub.Go.Streams
import AlbyHub.Api.Backup
import AlbyHub.LnClient.Failures
import AlbyHub.Config.Cache
import AlbyHub.Config.StoredTexts
import AlbyHub.Service.OneNode
import AlbyHub.Swaps.Creation
import AlbyHub.Swaps.Isolated
import AlbyHub.Swaps.Refund
import AlbyHub.Swaps.RefundRecord
import AlbyHub.Swaps.AutoSwap
import AlbyHub.Swaps.OneAutoSwap
import AlbyHub.Swaps.Dispatcher
import AlbyHub.Swaps.Stall
import AlbyHub.Interaction.Crash
import AlbyHub.Service.Restore
import AlbyHub.Transactions.Prompt
import AlbyHub.Transactions.WellFormed
import AlbyHub.Transactions.Lookup
import AlbyHub.Transactions.Outcomes
import AlbyHub.LnClient.SkimmedFees
import AlbyHub.LnClient.Polling
import AlbyHub.Go.Loops
import AlbyHub.Nip47.Notifications
import AlbyHub.Db.Migrate
import AlbyHub.Db.MigrateCorrect
import AlbyHub.LnClient.Broadcaster
import AlbyHub.LnClient.Broadcasts
import AlbyHub.LnClient.BarkSends
import AlbyHub.LnClient.BarkResults
import AlbyHub.Transactions.Attribution
import AlbyHub.Go.Hex
import AlbyHub.Go.Rounding
import AlbyHub.Nip47.Keysend
import AlbyHub.Transactions.HoldActions
import AlbyHub.Transactions.HoldLifecycle
import AlbyHub.Transactions.Attempts
import AlbyHub.Accounting.Escrow
import AlbyHub.Transactions.Accounts
import AlbyHub.Transactions.Spending
import AlbyHub.Apps.Grants
import AlbyHub.Apps.PermissionRows
import AlbyHub.Db.Subwallets
import AlbyHub.Db.Paging
import AlbyHub.Transactions.Paged
import AlbyHub.Transactions.HoldHash
import AlbyHub.Transactions.Warnings
import AlbyHub.Go.Float64
import AlbyHub.Go.JsonValue
import AlbyHub.Transactions.UserLabels
import AlbyHub.Interaction.Panics
import AlbyHub.LnClient.LdkHandler
import AlbyHub.LnClient.LdkOptionals
import AlbyHub.Nip47.EventHandler
import AlbyHub.Nip47.NoCrash
import AlbyHub.Nip47.DispatchedOnce
import AlbyHub.Nip47.Permitted
import AlbyHub.Http.Sessions
import AlbyHub.Http.Authentic
import AlbyHub.Apps.Connections
import AlbyHub.Nip47.InfoPublisher
import AlbyHub.Api.Transfer
import AlbyHub.LnClient.OpeningFees
import AlbyHub.LnClient.PaymentSizes
import AlbyHub.LnClient.FeeMenu
import AlbyHub.Go.Tiling
import AlbyHub.Go.Calendar
import AlbyHub.Nip47.BudgetWindows
import AlbyHub.Utils.CommandLine
import AlbyHub.Go.Replace
import AlbyHub.Db.SearchPattern
import AlbyHub.Utils.LogTail
import AlbyHub.Api.Rebalance
import AlbyHub.Service.Subscribers
import AlbyHub.Service.Subscriptions
import AlbyHub.Api.Listing
import AlbyHub.Api.RestoreBackup

import RosarioDairy.Foundations.Checked
import RosarioDairy.Foundations.Table
import RosarioDairy.Foundations.Journal
import RosarioDairy.Foundations.Grouping
import RosarioDairy.Foundations.KeyedCalls
import RosarioDairy.Foundations.KeyedRuns
import RosarioDairy.Calendar
import RosarioDairy.Text
import RosarioDairy.Config.ApiInputs
import RosarioDairy.Inventory.Models
import RosarioDairy.Sales.Models
import RosarioDairy.Store
import RosarioDairy.Inventory.BatchSerializer
import RosarioDairy.Inventory.Fefo
import RosarioDairy.Inventory.Adjustment
import RosarioDairy.Sales.ItemPricing
import RosarioDairy.Sales.Payment
import RosarioDairy.Sales.Invoice
import RosarioDairy.Sales.Checkout
import RosarioDairy.Sales.Orders
import RosarioDairy.Outcomes
import RosarioDairy.Inventory.Account
import RosarioDairy.Inventory.Bookkeeping
import RosarioDairy.Inventory.Conservation
import RosarioDairy.Inventory.Coherence
import RosarioDairy.Sales.Voiding
import RosarioDairy.Sales.PaymentRuns
import RosarioDairy.Reporting.LedgerHistory
import RosarioDairy.KeyedEncodings
import RosarioDairy.Sales.InvoiceRuns
import RosarioDairy.Foundations.LockedTable
import RosarioDairy.Inventory.Deduction
import RosarioDairy.Accounts.Revocation
import RosarioDairy.Foundations.LockOrder
import RosarioDairy.Foundations.Interleaving
import RosarioDairy.Sales.StockLocks
import RosarioDairy.Foundations.AtomicBlocks
import RosarioDairy.Config.BusinessWrites
import RosarioDairy.Accounts.AdminRemovals
import RosarioDairy.Forecasting.OneWorker
import RosarioDairy.Forecasting.Learning
import RosarioDairy.Forecasting.Lifecycle
import RosarioDairy.Forecasting.PromotionGate
import RosarioDairy.Forecasting.Prospective
import RosarioDairy.Forecasting.ProspectiveRuns
import RosarioDairy.Forecasting.Training
import RosarioDairy.Forecasting.PastOnly
import RosarioDairy.Foundations.Scan
import RosarioDairy.Foundations.Memo
import RosarioDairy.Sales.Visibility
import RosarioDairy.Reporting.SalesReports
import RosarioDairy.Reporting.CustomerReport
import RosarioDairy.Sales.History
import RosarioDairy.Reporting.StaffReports
import RosarioDairy.Forecasting.BetaGraph
import RosarioDairy.Forecasting.SeasonalOutlook
import RosarioDairy.Forecasting.GraphRange
import RosarioDairy.Forecasting.CoherentViews
import RosarioDairy.Foundations.Apportion
import RosarioDairy.Sales.LineSplit
import RosarioDairy.Foundations.Partition
import RosarioDairy.Sales.ItemizedSales
import RosarioDairy.Reporting.Breakdowns
import RosarioDairy.Reporting.ReportTotals
import RosarioDairy.Accounts.Lockout
import RosarioDairy.Accounts.LockoutSteps
import RosarioDairy.Accounts.LockoutRuns
import RosarioDairy.Accounts.ResetCodes
import RosarioDairy.Accounts.ResetCodeRuns
import RosarioDairy.Accounts.ResendCooldown
import RosarioDairy.Foundations.Annotations
import RosarioDairy.Forecasting.JobLifeCycle
import RosarioDairy.Foundations.StepConditions
import RosarioDairy.Foundations.RowSaves
import RosarioDairy.CatalogueEdits
import RosarioDairy.Inventory.ProductIdentity
import RosarioDairy.Foundations.UniqueKeys
import RosarioDairy.Accounts.AccountNames
import RosarioDairy.Reporting.LedgerModes
import RosarioDairy.Config.CacheNamespace
import RosarioDairy.Config.CacheEffects
import RosarioDairy.Config.CacheFreshness
import RosarioDairy.Foundations.Buckets
import RosarioDairy.Forecasting.SnapshotBatch
import RosarioDairy.Forecasting.DecimalRounding
import RosarioDairy.Forecasting.DairyShare
import RosarioDairy.Foundations.Rounding
import RosarioDairy.Foundations.Binary64
import RosarioDairy.Forecasting.WeeklyModel
import RosarioDairy.Forecasting.WeeklyTraining
import RosarioDairy.Foundations.Spans
import RosarioDairy.Forecasting.MonthRuns
import RosarioDairy.Forecasting.GraphHistory
import RosarioDairy.Forecasting.WeeklyRows
import RosarioDairy.Foundations.Patterns
import RosarioDairy.Foundations.Trimming
import RosarioDairy.Sales.Importers.CustomerNames
import RosarioDairy.Sales.Importers.CanonicalNames
import RosarioDairy.Sales.Importers.RefreshAccounts
import RosarioDairy.Sales.Importers.ImportedAmounts
import RosarioDairy.Sales.Importers.WorkbookRows
import RosarioDairy.Inventory.Consolidated
import RosarioDairy.Foundations.Saturation
import RosarioDairy.Sales.Backups.RowSelection
import RosarioDairy.Sales.Backups.ForeignKeyClosure
import RosarioDairy.Sales.Backups.ClosedSelection
import RosarioDairy.Sales.Backups.BackupRows
import RosarioDairy.PaddedNumbers
import RosarioDairy.Foundations.CounterRows
import RosarioDairy.Inventory.BatchNumbering
import RosarioDairy.Inventory.BatchNumbers
import RosarioDairy.Sales.InvoiceSearch
import RosarioDairy.Foundations.Tilings
import RosarioDairy.Forecasting.CalendarHelpers
import RosarioDairy.Forecasting.CalendarTilings
import RosarioDairy.Forecasting.CalendarAgreement
import RosarioDairy.Foundations.Batches
import RosarioDairy.Sales.Backups.SqlExport
import RosarioDairy.Foundations.Lines
import RosarioDairy.Sales.Backups.RestoredRows
import RosarioDairy.Sales.Backups.BackupHistory
import RosarioDairy.Sales.Backups.RestoreSafety
import RosarioDairy.Foundations.Merging
import RosarioDairy.Sales.CustomerConsolidation
import RosarioDairy.Sales.MergedCustomers
import RosarioDairy.Sales.ConsolidatedCustomers
import RosarioDairy.Foundations.Extensions
import RosarioDairy.Config.LiveEvents
import RosarioDairy.Config.LiveFreshness
import RosarioDairy.Forecasting.Serving
import RosarioDairy.Forecasting.Publication
import RosarioDairy.Foundations.TableFrames
import RosarioDairy.Sales.Importers.AppliedPlan
import RosarioDairy.Sales.Importers.RefreshSteps
import RosarioDairy.Sales.Importers.RefreshProgress
import RosarioDairy.Sales.Importers.RefreshedHistory
import RosarioDairy.Sales.Importers.RefreshSafety
import RosarioDairy.Sales.Importers.RepeatedRefresh

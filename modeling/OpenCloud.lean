import OpenCloud.Accounts.Backups
import OpenCloud.Accounts.Passwords
import OpenCloud.Accounts.SecondStep
import OpenCloud.Accounts.Sessions
import OpenCloud.Accounts.Users
import OpenCloud.AdminApi.UserViews
import OpenCloud.AdminApi.Views
import OpenCloud.Audit.Journals
import OpenCloud.Audit.Pages
import OpenCloud.Audit.Services
import OpenCloud.Billing.Averages
import OpenCloud.Billing.Breakdown
import OpenCloud.Billing.Collector
import OpenCloud.Billing.Database
import OpenCloud.Billing.Estimate
import OpenCloud.Billing.Export
import OpenCloud.Billing.FailedWrites
import OpenCloud.Billing.Footprint
import OpenCloud.Billing.History
import OpenCloud.Billing.Invoices
import OpenCloud.Billing.Models
import OpenCloud.Billing.Numbering
import OpenCloud.Billing.Outages
import OpenCloud.Billing.Paper
import OpenCloud.Billing.Periods
import OpenCloud.Billing.PriceLists
import OpenCloud.Billing.PricePages
import OpenCloud.Billing.Quotes
import OpenCloud.Billing.Rates
import OpenCloud.Billing.Uncounted
import OpenCloud.Billing.Usage
import OpenCloud.Billing.Vat
import OpenCloud.Billing.Views
import OpenCloud.Common.Dates
import OpenCloud.Common.Exceptions
import OpenCloud.Common.Integers
import OpenCloud.Common.Tenancy
import OpenCloud.Common.Text
import OpenCloud.Compute.Views
import OpenCloud.Integrations.Auth
import OpenCloud.Integrations.Directory
import OpenCloud.Integrations.Fetches
import OpenCloud.Integrations.FetchesEnd
import OpenCloud.Integrations.Http
import OpenCloud.Integrations.Listings
import OpenCloud.Integrations.Passwords
import OpenCloud.Integrations.Resources
import OpenCloud.Integrations.ResponseCache
import OpenCloud.Integrations.ServiceToken
import OpenCloud.Integrations.Writes
import OpenCloud.Lib.Binary64
import OpenCloud.Lib.Caches
import OpenCloud.Lib.Completion
import OpenCloud.Lib.Contexts
import OpenCloud.Lib.Csv
import OpenCloud.Lib.Decimals
import OpenCloud.Lib.Dicts
import OpenCloud.Lib.Floats
import OpenCloud.Lib.ForkJoin
import OpenCloud.Lib.Gathers
import OpenCloud.Lib.Histories
import OpenCloud.Lib.Json
import OpenCloud.Lib.Numerals
import OpenCloud.Lib.Paging
import OpenCloud.Lib.ReadCommitted
import OpenCloud.Lib.ReadThrough
import OpenCloud.Lib.Runs
import OpenCloud.Lib.Slices
import OpenCloud.Lib.Tables
import OpenCloud.Lib.Tallies
import OpenCloud.Monitoring.Views
import OpenCloud.Networking.Overview
import OpenCloud.Networking.Views
import OpenCloud.Platform.Attribution
import OpenCloud.Platform.Authenticators
import OpenCloud.Platform.BackupSwitch
import OpenCloud.Platform.BillingViews
import OpenCloud.Platform.Lockout
import OpenCloud.Platform.OneTimeCodes
import OpenCloud.Platform.Operators
import OpenCloud.Platform.OtherSessions
import OpenCloud.Platform.Overview
import OpenCloud.Platform.Passwords
import OpenCloud.Platform.Picture
import OpenCloud.Platform.Requisites
import OpenCloud.Platform.Revenue
import OpenCloud.Platform.Scope
import OpenCloud.Platform.SignIn
import OpenCloud.Platform.Snapshot
import OpenCloud.Platform.Tickets
import OpenCloud.Platform.TwoFactors
import OpenCloud.Platform.UserLists
import OpenCloud.Platform.UserSwitches
import OpenCloud.Quotas.Rows
import OpenCloud.Quotas.Views
import OpenCloud.Storage.Views
import OpenCloud.System.Agreement
import OpenCloud.System.Authority
import OpenCloud.System.Boundary
import OpenCloud.System.Conservation
import OpenCloud.System.Drafts
import OpenCloud.System.Firewall
import OpenCloud.System.FirstPrices
import OpenCloud.System.Frozen
import OpenCloud.System.InvoicedAsWritten
import OpenCloud.System.Isolation
import OpenCloud.System.Issuing
import OpenCloud.System.LastPicture
import OpenCloud.System.LastWritten
import OpenCloud.System.Media
import OpenCloud.System.Numbers
import OpenCloud.System.Overlap
import OpenCloud.System.OwnTokens
import OpenCloud.System.Pages
import OpenCloud.System.PricePages
import OpenCloud.System.Renames
import OpenCloud.System.Resolvers
import OpenCloud.System.Responses
import OpenCloud.System.Service
import OpenCloud.System.StoragePages
import OpenCloud.System.Switches
import OpenCloud.System.Trail

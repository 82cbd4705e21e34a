import Vouch.Keyset.Page
import Vouch.Keyset.Run
import Vouch.Py.Base64
import Vouch.Py.Text
import Vouch.Py.Json
import Vouch.Py.Calendar
import Vouch.Py.Library
import Vouch.Sql.Numeric
import Vouch.Sql.Value
import Vouch.Sql.Schema
import Vouch.App.Assets
import Vouch.App.Errors
import Vouch.App.Inventory
import Vouch.App.Listing
import Vouch.App.Routes
import Vouch.App.Traversal
import Vouch.Py.Reference
import Vouch.Sql.Preserve
import Vouch.App.Availability
import Vouch.App.Detail
import Vouch.App.Handled
import Vouch.App.Interleaving
import Vouch.App.Noninterference
import Vouch.Db.Payout
import Vouch.Db.Handovers
import Vouch.App.Publication
import Vouch.Db.Orm
import Vouch.Sql.TwoValued
import Vouch.Db.Lifecycle
import Vouch.Machine.Run
import Vouch.Machine.Admission
import Vouch.Machine.Requirement
import Vouch.Db.PayoutLifecycle
import Vouch.Db.Evidence
import Vouch.Py.Url
import Vouch.App.Cursor
import Vouch.App.Middleware
import Vouch.App.Correlation
import Vouch.App.Rates
import Vouch.Py.Decimal
import Vouch.Sql.Codec
import Vouch.Sql.Insert
import Vouch.Sql.Script
import Vouch.Sql.Deployment
import Vouch.Sql.SameRules
import Vouch.Db.Load
import Vouch.Db.Insert
import Vouch.Db.Metadata
import Vouch.App.Upgrade
import Vouch.App.Deployment
import Vouch.Keyset.Slice
import Vouch.Keyset.Shrinking
import Vouch.App.Paging
import Vouch.App.Answers
import Vouch.App.Narrowing
import Vouch.Sql.Query
import Vouch.Sql.Scan
import Vouch.App.Statement
import Vouch.App.Plans
import Vouch.App.Reservations
import Vouch.App.Contention
import Vouch.App.Amounts

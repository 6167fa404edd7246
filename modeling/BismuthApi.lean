import BismuthApi.Json
import BismuthApi.Like
import BismuthApi.Ledger
import BismuthApi.Api
import BismuthApi.Blocks
import BismuthApi.Handlers
import BismuthApi.Framing
import BismuthApi.Run
import BismuthApi.Replies
import BismuthApi.Aggregates
import BismuthApi.Windows
import BismuthApi.Storage
import BismuthApi.Pagination
import BismuthApi.Lookups

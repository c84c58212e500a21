import FeedReader.Cache.Offline
import FeedReader.Cache.Opening
import FeedReader.Cache.Tables
import FeedReader.Calendar
import FeedReader.CommandLine.Arguments
import FeedReader.CommandLine.Session
import FeedReader.Config
import FeedReader.Duration
import FeedReader.Json.Record
import FeedReader.Json.TextList
import FeedReader.Json.Token
import FeedReader.Json.Value
import FeedReader.Listing
import FeedReader.Main
import FeedReader.Paging.Arrival
import FeedReader.Paging.Event
import FeedReader.Paging.FetchState
import FeedReader.Paging.Loader
import FeedReader.Paging.Marking
import FeedReader.Paging.Merge
import FeedReader.Paging.Request
import FeedReader.Proofs.Cache.Eviction
import FeedReader.Proofs.Cache.FetchedPage
import FeedReader.Proofs.Cache.Store
import FeedReader.Proofs.Cache.Streams
import FeedReader.Proofs.Cache.Tables
import FeedReader.Proofs.Config
import FeedReader.Proofs.Json.Record
import FeedReader.Proofs.Json.Spelling.Number
import FeedReader.Proofs.Json.Spelling.Text
import FeedReader.Proofs.Json.Spelling.Value
import FeedReader.Proofs.Listing
import FeedReader.Proofs.Paging.Answers
import FeedReader.Proofs.Paging.CachedFlags
import FeedReader.Proofs.Paging.CachedList
import FeedReader.Proofs.Paging.Contents
import FeedReader.Proofs.Paging.Effects
import FeedReader.Proofs.Paging.Ending
import FeedReader.Proofs.Paging.FailedPage
import FeedReader.Proofs.Paging.FlagEffect
import FeedReader.Proofs.Paging.FlagTurn
import FeedReader.Proofs.Paging.FlagsOnly
import FeedReader.Proofs.Paging.LatePage
import FeedReader.Proofs.Paging.Ledger
import FeedReader.Proofs.Paging.Merging
import FeedReader.Proofs.Paging.Notes
import FeedReader.Proofs.Paging.Offline
import FeedReader.Proofs.Paging.Outstanding
import FeedReader.Proofs.Paging.OwnPage
import FeedReader.Proofs.Paging.PageFlags
import FeedReader.Proofs.Paging.PageOrder
import FeedReader.Proofs.Paging.Past
import FeedReader.Proofs.Paging.Reloading
import FeedReader.Proofs.Paging.ReportedStories
import FeedReader.Proofs.Paging.Reports
import FeedReader.Proofs.Paging.Rows
import FeedReader.Proofs.Paging.Run
import FeedReader.Proofs.Paging.Settling
import FeedReader.Proofs.Remote.Backoff
import FeedReader.Proofs.Remote.Body
import FeedReader.Proofs.Remote.CutShort
import FeedReader.Proofs.Remote.Page
import FeedReader.Proofs.Remote.Request
import FeedReader.Proofs.Remote.Retry
import FeedReader.Proofs.Story.Collection
import FeedReader.Proofs.Story.Context
import FeedReader.Proofs.Story.Indexed
import FeedReader.Proofs.Text.Cut
import FeedReader.Proofs.Text.Integer
import FeedReader.Proofs.Text.Numeral
import FeedReader.Proofs.Text.Terminal
import FeedReader.Proofs.Text.Truncate
import FeedReader.Proofs.Text.Utf8
import FeedReader.Proofs.Text.Width
import FeedReader.Proofs.Toml.Keys
import FeedReader.Proofs.Toml.Silence
import FeedReader.Proofs.Url.Address
import FeedReader.Proofs.Url.Form
import FeedReader.Proofs.Url.Path
import FeedReader.Proofs.Url.Percent
import FeedReader.Proofs.Url.Reference
import FeedReader.Proofs.Url.Server
import FeedReader.Remote.Backoff
import FeedReader.Remote.Body
import FeedReader.Remote.Call
import FeedReader.Remote.Error
import FeedReader.Remote.Page
import FeedReader.Remote.Request
import FeedReader.Remote.Retry
import FeedReader.Remote.Server
import FeedReader.Story.Basic
import FeedReader.Story.Collection
import FeedReader.Story.Context
import FeedReader.Story.Flag
import FeedReader.Story.Indexed
import FeedReader.Story.Level
import FeedReader.Text.Basic
import FeedReader.Text.Composition
import FeedReader.Text.Composition.Tables
import FeedReader.Text.Mark
import FeedReader.Text.Numeral
import FeedReader.Text.Quoted
import FeedReader.Text.Split
import FeedReader.Text.Terminal
import FeedReader.Text.Truncate
import FeedReader.Text.Width.Ranges
import FeedReader.Text.Width.Sequence
import FeedReader.Toml.Document
import FeedReader.Toml.Entry
import FeedReader.Toml.Nesting
import FeedReader.Toml.Scalar
import FeedReader.Toml.Token
import FeedReader.Toml.Value
import FeedReader.Url.Basic
import FeedReader.Url.Domain
import FeedReader.Url.Domain.Direction
import FeedReader.Url.Domain.Joining
import FeedReader.Url.Domain.Punycode
import FeedReader.Url.Domain.Spelling
import FeedReader.Url.Domain.Spelling.Ideographs
import FeedReader.Url.Domain.Spelling.Ranges
import FeedReader.Url.Domain.Spelling.Shifts
import FeedReader.Url.Domain.Spelling.Words
import FeedReader.Url.Host
import FeedReader.Url.Ipv4
import FeedReader.Url.Ipv6
import FeedReader.Url.Percent
import FeedReader.Url.Reading
import FeedReader.Url.Server

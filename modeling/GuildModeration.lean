import GuildModeration.Analytics
import GuildModeration.Bot
import GuildModeration.Cache.Clock
import GuildModeration.Cache.Entries
import GuildModeration.Cache.Lookup
import GuildModeration.Cache.Maintenance
import GuildModeration.Cache.Timeline
import GuildModeration.Calendar
import GuildModeration.Command
import GuildModeration.Command.Invocation
import GuildModeration.Config
import GuildModeration.Config.Fields
import GuildModeration.Config.Form
import GuildModeration.Diagnostics
import GuildModeration.Engine
import GuildModeration.Evaluation
import GuildModeration.Files.Pattern
import GuildModeration.Files.Tree
import GuildModeration.Gateway
import GuildModeration.Guild
import GuildModeration.Ids
import GuildModeration.Link.Address
import GuildModeration.Link.Host
import GuildModeration.Link.Invite
import GuildModeration.Link.Web
import GuildModeration.Log.Event
import GuildModeration.Log.Filter
import GuildModeration.Log.Output
import GuildModeration.Main
import GuildModeration.Message
import GuildModeration.Moderator
import GuildModeration.Punishment.Call
import GuildModeration.Punishment.Error
import GuildModeration.Punishment.Job
import GuildModeration.Punishment.Stage
import GuildModeration.Rule.Basic
import GuildModeration.Rule.Invite
import GuildModeration.Rule.Links
import GuildModeration.Rule.Mention
import GuildModeration.Rule.Reputation
import GuildModeration.Rule.Sites
import GuildModeration.Rule.Spam
import GuildModeration.Rule.Words
import GuildModeration.Service.Moderation
import GuildModeration.Service.Request
import GuildModeration.Settings
import GuildModeration.Severity
import GuildModeration.Spam.Tracker
import GuildModeration.Startup
import GuildModeration.Store.Directory
import GuildModeration.Store.Error
import GuildModeration.Store.Memory
import GuildModeration.Table
import GuildModeration.Text.Alphabetic
import GuildModeration.Text.Blank
import GuildModeration.Text.Caseless
import GuildModeration.Text.Casing
import GuildModeration.Text.Duration
import GuildModeration.Text.Lowercase
import GuildModeration.Text.Mark
import GuildModeration.Text.Numeral
import GuildModeration.Text.Numeric
import GuildModeration.Text.Printable
import GuildModeration.Text.Quoted
import GuildModeration.Text.Ranges
import GuildModeration.Text.Words
import GuildModeration.Yaml.Cursor
import GuildModeration.Yaml.Document
import GuildModeration.Yaml.Lexer
import GuildModeration.Yaml.Node
import GuildModeration.Yaml.Reading
import GuildModeration.Yaml.ScalarText
import GuildModeration.Yaml.Token
import GuildModeration.Proofs.Cache.Burst
import GuildModeration.Proofs.Cache.Clock
import GuildModeration.Proofs.Cache.Entries
import GuildModeration.Proofs.Cache.Eviction
import GuildModeration.Proofs.Cache.Failures
import GuildModeration.Proofs.Cache.History
import GuildModeration.Proofs.Cache.Idle
import GuildModeration.Proofs.Cache.Invalidation
import GuildModeration.Proofs.Cache.Locks
import GuildModeration.Proofs.Cache.MaintainedRun
import GuildModeration.Proofs.Cache.Maintenance
import GuildModeration.Proofs.Cache.Queues
import GuildModeration.Proofs.Cache.Reaping
import GuildModeration.Proofs.Cache.Recency
import GuildModeration.Proofs.Cache.Records
import GuildModeration.Proofs.Cache.Renewal
import GuildModeration.Proofs.Cache.Requests
import GuildModeration.Proofs.Cache.Run
import GuildModeration.Proofs.Cache.Schedule
import GuildModeration.Proofs.Cache.SingleFlight
import GuildModeration.Proofs.Cache.Staleness
import GuildModeration.Proofs.Cache.Views
import GuildModeration.Proofs.Config.Fields
import GuildModeration.Proofs.Config.Forms
import GuildModeration.Proofs.Config.Mechanism
import GuildModeration.Proofs.Config.Records
import GuildModeration.Proofs.Config.Rules
import GuildModeration.Proofs.Evaluation
import GuildModeration.Proofs.Evaluation.Answers
import GuildModeration.Proofs.Evaluation.Case
import GuildModeration.Proofs.Evaluation.Declared
import GuildModeration.Proofs.Evaluation.Flags
import GuildModeration.Proofs.Evaluation.Locality
import GuildModeration.Proofs.Evaluation.Padding
import GuildModeration.Proofs.Evaluation.Reasons
import GuildModeration.Proofs.Evaluation.Sites
import GuildModeration.Proofs.Files.Paths
import GuildModeration.Proofs.Link.Address
import GuildModeration.Proofs.Link.Case
import GuildModeration.Proofs.Link.Harmless
import GuildModeration.Proofs.Link.Hostname
import GuildModeration.Proofs.Link.Hosts
import GuildModeration.Proofs.Link.Labels
import GuildModeration.Proofs.Link.Prefixes
import GuildModeration.Proofs.Link.Scheme
import GuildModeration.Proofs.Link.Separation
import GuildModeration.Proofs.Link.Suffixes
import GuildModeration.Proofs.Link.Typed
import GuildModeration.Proofs.Moderation.Checks
import GuildModeration.Proofs.Moderation.Isolation
import GuildModeration.Proofs.Moderation.Repetition
import GuildModeration.Proofs.Moderation.Traffic
import GuildModeration.Proofs.Moderation.Verdicts
import GuildModeration.Proofs.Punishment.Breakdown
import GuildModeration.Proofs.Punishment.Course
import GuildModeration.Proofs.Punishment.Dispatch
import GuildModeration.Proofs.Sites.Blocking
import GuildModeration.Proofs.Sites.Entries
import GuildModeration.Proofs.Sites.Flagged
import GuildModeration.Proofs.Sites.Reputation
import GuildModeration.Proofs.Sites.Verdicts
import GuildModeration.Proofs.Spam.Bursts
import GuildModeration.Proofs.Spam.Checks
import GuildModeration.Proofs.Spam.Histories
import GuildModeration.Proofs.Spam.Pruning
import GuildModeration.Proofs.Spam.Repeats
import GuildModeration.Proofs.Spam.Tracked
import GuildModeration.Proofs.Spam.Windows
import GuildModeration.Proofs.Startup
import GuildModeration.Proofs.Text.Case
import GuildModeration.Proofs.Text.Decimal
import GuildModeration.Proofs.Text.Harmless
import GuildModeration.Proofs.Text.Runs
import GuildModeration.Proofs.Text.Separation
import GuildModeration.Proofs.Words.Entries
import GuildModeration.Proofs.Words.WholeWords
import GuildModeration.Proofs.Yaml.Scalars
import GuildModeration.Proofs.Service.Mutes
import GuildModeration.Proofs.Files.Patterns
import GuildModeration.Proofs.Store.Directory

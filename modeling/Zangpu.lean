import Zangpu.Foundation.Outcome
import Zangpu.Models.Callers
import Zangpu.Models.Ledger
import Zangpu.Security.Replay
import Zangpu.Security.Credentials
import Zangpu.Security.Canonical.Meaning
import Zangpu.Sdk.Canonicalization
import Zangpu.Sdk.Streaming.Relaying
import Zangpu.Services.Quota.Conservation
import Zangpu.Services.Quota.Finalization
import Zangpu.Services.Quota.History
import Zangpu.Services.Metadata
import Zangpu.Services.Retention.Rounds
import Zangpu.Services.Quota.Locks
import Zangpu.Services.Admin.Rotation
import Zangpu.Services.Admin.Updates
import Zangpu.Services.Admin.Summaries
import Zangpu.Limits.Concurrency.Guarantees
import Zangpu.Limits.Qps
import Zangpu.Limits.Retries
import Zangpu.Services.Chat.Hints
import Zangpu.Services.Chat.Waiting
import Zangpu.Services.Chat.Methods
import Zangpu.Limits.ModelPool.Guarantees
import Zangpu.Limits.ModelPool.Fairness
import Zangpu.Services.Chat.Leases.Queueing
import Zangpu.Services.Chat.Leases.Admission
import Zangpu.Workers.Recovery.Fairness
import Zangpu.Workers.Recovery.Abandonment
import Zangpu.Workers.Recovery.Identity
import Zangpu.Workers.Recovery.Completion
import Zangpu.Services.Chat.Expiry
import Zangpu.Workers.Outbox.Fencing
import Zangpu.Workers.Outbox.Retrying
import Zangpu.Workers.Outbox.Versions
import Zangpu.Workers.Outbox.Disabling
import Zangpu.Foundation.Digest

import ClaimAudit.Assessment
import ClaimAudit.Auditor
import ClaimAudit.Backend.Scripted
import ClaimAudit.Chat.Json
import ClaimAudit.Cli.Directory
import ClaimAudit.Knowledge.Json
import ClaimAudit.Knowledge.Memory
import ClaimAudit.Main
import ClaimAudit.Proofs.BatchedUpserts
import ClaimAudit.Proofs.Blame
import ClaimAudit.Proofs.Catalog
import ClaimAudit.Proofs.Documents
import ClaimAudit.Proofs.EmbeddingAlignment
import ClaimAudit.Proofs.EvidenceListing
import ClaimAudit.Proofs.ExplainedClaims
import ClaimAudit.Proofs.FencedReply
import ClaimAudit.Proofs.Findings
import ClaimAudit.Proofs.Flagging
import ClaimAudit.Proofs.IdleRetrieval
import ClaimAudit.Proofs.Merging
import ClaimAudit.Proofs.Percentages
import ClaimAudit.Proofs.PointPayload
import ClaimAudit.Proofs.ReplyOffsets
import ClaimAudit.Proofs.ReportRoundTrip
import ClaimAudit.Proofs.Retrieval
import ClaimAudit.Proofs.ScoreMonotonicity
import ClaimAudit.Proofs.Seeding
import ClaimAudit.Proofs.SettingsByKey
import ClaimAudit.Proofs.StageOrder
import ClaimAudit.Proofs.StatusSpelling
import ClaimAudit.Proofs.StoredNotes
import ClaimAudit.Proofs.Submissions
import ClaimAudit.Proofs.TimeLimit
import ClaimAudit.Proofs.TokenTotals
import ClaimAudit.Proofs.VectorBytes
import ClaimAudit.Score.Json
import ClaimAudit.Settings.Json
import ClaimAudit.Proofs.QuotedText

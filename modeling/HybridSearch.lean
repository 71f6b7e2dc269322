import HybridSearch.Service
import HybridSearch.Proofs.SuggestOrder
import HybridSearch.Proofs.WeightChange
import HybridSearch.Proofs.Reranked
import HybridSearch.Proofs.Outage
import HybridSearch.Proofs.Bounds
import HybridSearch.Proofs.Code
import HybridSearch.Proofs.Refusal
import HybridSearch.Proofs.StoreHistory
import HybridSearch.Proofs.Unclassified
import HybridSearch.Proofs.Unasked
import HybridSearch.Proofs.Provenance
import HybridSearch.Proofs.Question
import HybridSearch.Proofs.SuggestTotal
import HybridSearch.Proofs.Exactness
import HybridSearch.Proofs.Boundary
import HybridSearch.Proofs.Layering
import HybridSearch.Proofs.Fusion
import HybridSearch.Proofs.Reordering
import HybridSearch.Proofs.Fingerprint
import HybridSearch.Proofs.Filtering
import HybridSearch.Proofs.Strategies
import HybridSearch.Proofs.SuggestInput
import HybridSearch.Proofs.RerankOrder
import HybridSearch.Proofs.Payload
import HybridSearch.Proofs.Reply
import HybridSearch.Proofs.Vector
import HybridSearch.Proofs.Hidden
import HybridSearch.Proofs.Sentences
import HybridSearch.Proofs.Details
import HybridSearch.Proofs.Spacing
import HybridSearch.Proofs.CodeShape
import HybridSearch.Proofs.GenericTerms
import HybridSearch.Proofs.CaseChange
import HybridSearch.Proofs.MergedText
import HybridSearch.Proofs.Reencoding
import HybridSearch.Proofs.IntentTerms
import HybridSearch.Proofs.Expansion
import HybridSearch.Proofs.Coverage
import HybridSearch.Proofs.Truncation
import HybridSearch.Proofs.VersionText
import HybridSearch.Proofs.JsonTexts

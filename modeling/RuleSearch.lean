import RuleSearch.Settings
import RuleSearch.Json.Reader
import RuleSearch.Meaning
import RuleSearch.Request.Write
import RuleSearch.Response.Grammar
import RuleSearch.Search.Run
import RuleSearch.Step.Component
import RuleSearch.Proofs.Completion
import RuleSearch.Proofs.Seeds
import RuleSearch.Proofs.Gathering
import RuleSearch.Proofs.RuleFilter
import RuleSearch.Proofs.Conjunction
import RuleSearch.Proofs.Sending
import RuleSearch.Proofs.Survival
import RuleSearch.Proofs.Priority
import RuleSearch.Proofs.Addressing
import RuleSearch.Proofs.Agreement
import RuleSearch.Proofs.Modes
import RuleSearch.Proofs.Marks
import RuleSearch.Proofs.Additions
import RuleSearch.Proofs.Asking
import RuleSearch.Proofs.Sharing
import RuleSearch.Proofs.Loading
import RuleSearch.Proofs.Shape
import RuleSearch.Proofs.Columns
import RuleSearch.Proofs.Decoding
import RuleSearch.Proofs.Acceptance
import RuleSearch.Proofs.Rereading
import RuleSearch.Proofs.Commuting
import RuleSearch.Proofs.Consulting
import RuleSearch.Proofs.Indexless
import RuleSearch.Proofs.Recovering
import RuleSearch.Proofs.Verbatim
import RuleSearch.Proofs.Showing
import RuleSearch.Proofs.Paging
import RuleSearch.Proofs.Answering
import RuleSearch.Proofs.Confining
import RuleSearch.Proofs.Counting
import RuleSearch.Proofs.Locking
import RuleSearch.Proofs.Writing

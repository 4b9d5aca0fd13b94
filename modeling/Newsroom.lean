import Newsroom.Logging.Basic
import Newsroom.Service.Operation
import Newsroom.Service.Rights
import Newsroom.Store.Disk
import Newsroom.Proofs.Json.Record
import Newsroom.Proofs.Vocabulary.Item
import Newsroom.Proofs.Vocabulary.Schema
import Newsroom.Proofs.Vocabulary.Document
import Newsroom.Proofs.Vocabulary.Update
import Newsroom.Proofs.Service.Checks
import Newsroom.Proofs.Service.Step
import Newsroom.Proofs.Service.History
import Newsroom.Proofs.Service.Protection
import Newsroom.Proofs.Vocabulary.Values
import Newsroom.Proofs.Service.Presence
import Newsroom.Proofs.Store.TextLayer
import Newsroom.Proofs.Service.Events
import Newsroom.Proofs.Service.Agreement
import Newsroom.Proofs.Service.Batches
import Newsroom.Proofs.Store.Listing
import Newsroom.Proofs.Store.ReadBack
import Newsroom.Proofs.Service.Links
import Newsroom.Proofs.Service.Merging
import Newsroom.Proofs.Vocabulary.Cells
import Newsroom.Proofs.Reading.Passes
import Newsroom.Proofs.Reading.Representation
import Newsroom.Proofs.Reading.ActivityFlag
import Newsroom.Proofs.Reading.Presentation
import Newsroom.Proofs.Service.UniqueDefault
import Newsroom.Proofs.Vocabulary.Merge
import Newsroom.Proofs.Service.Metadata
import Newsroom.Proofs.Service.Answers
import Newsroom.Proofs.Reading.NameLookup
import Newsroom.Proofs.Store.Revision
import Newsroom.Proofs.Logging.Settling
import Newsroom.Proofs.Service.Codes
import Newsroom.Proofs.Service.Discretion
import Newsroom.Proofs.Service.Violations
import Newsroom.Proofs.Vocabulary.Faults
import Newsroom.Proofs.Reading.ArticleForm
import Newsroom.Proofs.Service.RelatedContent
import Newsroom.Proofs.Reading.TextCasts
import Newsroom.Proofs.Reading.Recasting
import Newsroom.Proofs.Service.Lookups
import Newsroom.Proofs.Service.RightsOwner

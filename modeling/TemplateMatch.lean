import TemplateMatch.Main
import TemplateMatch.Poll
import TemplateMatch.Proofs.Regex.ClassRounds
import TemplateMatch.Proofs.Regex.Leads
import TemplateMatch.Proofs.Regex.Soundness
import TemplateMatch.Proofs.Regex.Completeness
import TemplateMatch.Proofs.Template.Pieces
import TemplateMatch.Proofs.Template.Rendering
import TemplateMatch.Proofs.Template.Verbatim
import TemplateMatch.Proofs.Entries
import TemplateMatch.Proofs.Scenario.Symbols
import TemplateMatch.Proofs.Template.Captures
import TemplateMatch.Proofs.Template.Anchoring
import TemplateMatch.Proofs.Walk.Embedding
import TemplateMatch.Proofs.Walk.Differences
import TemplateMatch.Proofs.Walk.OwnField
import TemplateMatch.Proofs.Template.Rebinding
import TemplateMatch.Proofs.Walk.Repeating
import TemplateMatch.Proofs.Scenario.Repetition
import TemplateMatch.Proofs.Regex.Courses
import TemplateMatch.Proofs.Regex.Walks
import TemplateMatch.Proofs.Template.Filling
import TemplateMatch.Proofs.Walk.Errors
import TemplateMatch.Proofs.Scenario.Polling
import TemplateMatch.Proofs.Template.Automatic
import TemplateMatch.Proofs.Scenario.Resolving
import TemplateMatch.Proofs.Template.Grouping
import TemplateMatch.Proofs.Scenario.Items
import TemplateMatch.Proofs.Walk.Leniency
import TemplateMatch.Proofs.Scenario.Bound
import TemplateMatch.Proofs.Template.Shortest
import TemplateMatch.Proofs.Json.Places
import TemplateMatch.Proofs.Template.Lexing
import TemplateMatch.Proofs.Walk.Pointing
import TemplateMatch.Proofs.Walk.Order
import TemplateMatch.Proofs.Walk.Accounting
import TemplateMatch.Proofs.Template.Resolved
import TemplateMatch.Proofs.Walk.FurtherFields
import TemplateMatch.Proofs.Walk.Reordering
import TemplateMatch.Proofs.Regex.Returning
import TemplateMatch.Proofs.Regex.ReturningClasses
import TemplateMatch.Proofs.Regex.ReturningGroups
import TemplateMatch.Proofs.Template.Forced
import TemplateMatch.Proofs.InsertionOrder
import TemplateMatch.Proofs.Walk.Extraction
import TemplateMatch.Proofs.Command.Exporting
import TemplateMatch.Proofs.Scenario.Integers
import TemplateMatch.Proofs.Command.Comparing
import TemplateMatch.Proofs.Walk.Isolation

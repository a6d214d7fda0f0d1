import SchemaMarkup.Main
import SchemaMarkup.Conventions.Partial
import SchemaMarkup.Session.History
import SchemaMarkup.Proofs.Additions.Difference
import SchemaMarkup.Proofs.Markup.RoundTrip
import SchemaMarkup.Proofs.Merge.WellFormed
import SchemaMarkup.Proofs.Session.BaseTables
import SchemaMarkup.Proofs.Session.CoherentHistories
import SchemaMarkup.Proofs.Markup.InlineRefs
import SchemaMarkup.Proofs.Merge.Mentions
import SchemaMarkup.Proofs.Session.GivenUpNames
import SchemaMarkup.Proofs.Merge.Closed
import SchemaMarkup.Proofs.Merge.SelfMerge
import SchemaMarkup.Proofs.Session.Commits
import SchemaMarkup.Proofs.Session.RenameCascade
import SchemaMarkup.Proofs.Markup.LogicalLines
import SchemaMarkup.Proofs.Markup.DroppedLines
import SchemaMarkup.Proofs.Markup.Layout
import SchemaMarkup.Proofs.Markup.Nesting
import SchemaMarkup.Proofs.Markup.Repeats
import SchemaMarkup.Proofs.Markup.SchemaRepeats
import SchemaMarkup.Proofs.Markup.WrittenLines
import SchemaMarkup.Proofs.Markup.Bare
import SchemaMarkup.Proofs.Merge.BareMerge
import SchemaMarkup.Proofs.Session.MergedText
import SchemaMarkup.Proofs.Merge.MergedDifference
import SchemaMarkup.Proofs.Session.Absorption
import SchemaMarkup.Proofs.Session.ExtendedTables
import SchemaMarkup.Proofs.Markup.LaidOut
import SchemaMarkup.Proofs.Markup.ReadLines
import SchemaMarkup.Proofs.Markup.ReadSchemas
import SchemaMarkup.Proofs.Markup.Rereading
import SchemaMarkup.Proofs.Merge.Losses
import SchemaMarkup.Proofs.Session.CommutingRenames
import SchemaMarkup.Proofs.Session.RenamingBack
import SchemaMarkup.Proofs.Markup.Concatenation
import SchemaMarkup.Proofs.Markup.Comments
import SchemaMarkup.Proofs.Session.AllOrNothing
import SchemaMarkup.Proofs.Markup.TokenLines
import SchemaMarkup.Proofs.Additions.Recorded
import SchemaMarkup.Proofs.Relation.Normalization
import SchemaMarkup.Proofs.Relation.TypedRefs
import SchemaMarkup.Proofs.Markup.DeclaredTables
import SchemaMarkup.Proofs.Markup.CutTables
import SchemaMarkup.Proofs.Sql.RepeatedDeclarations
import SchemaMarkup.Proofs.Session.PlaceholderSearch
import SchemaMarkup.Proofs.Markup.Fences
import SchemaMarkup.Proofs.SharedEnding
import SchemaMarkup.Proofs.Markup.Recutting
import SchemaMarkup.Proofs.Merge.RenamedFields
import SchemaMarkup.Proofs.Additions.Page

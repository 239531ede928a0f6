import SqlStatement.Inspect
import SqlStatement.Parameters.Index
import SqlStatement.Statement.Insert
import SqlStatement.Statement.MultiSelect
import SqlStatement.Statement.Update
import SqlStatement.Proofs.Parameters.Writes
import SqlStatement.Proofs.Phrase.Contents
import SqlStatement.Proofs.Phrase.Writing
import SqlStatement.Proofs.Phrase.Line
import SqlStatement.Proofs.Statement.Model
import SqlStatement.Proofs.Query.Leaves
import SqlStatement.Proofs.Query.Bindings
import SqlStatement.Proofs.Statement.Bindings
import SqlStatement.Proofs.Phrase.Legible
import SqlStatement.Proofs.Query.Legible
import SqlStatement.Proofs.Statement.Placeholders
import SqlStatement.Proofs.Statement.Strategies
import SqlStatement.Proofs.Criteria.Grammar
import SqlStatement.Proofs.Criteria.Readings
import SqlStatement.Proofs.Criteria.Tokens
import SqlStatement.Proofs.Query.Faults
import SqlStatement.Proofs.Query.Resolution
import SqlStatement.Proofs.Statement.Failures
import SqlStatement.Proofs.Statement.Qualifiers
import SqlStatement.Proofs.Query.Names
import SqlStatement.Proofs.Query.Columns
import SqlStatement.Proofs.Statement.Columns
import SqlStatement.Proofs.Phrase.Renaming
import SqlStatement.Proofs.Statement.Nested
import SqlStatement.Proofs.Query.Agreement
import SqlStatement.Proofs.Query.Prune
import SqlStatement.Proofs.Statement.Prune
import SqlStatement.Proofs.Statement.Events
import SqlStatement.Proofs.Statement.Combination
import SqlStatement.Proofs.Statement.Capture
import SqlStatement.Proofs.Phrase.Identities
import SqlStatement.Proofs.Query.Identities
import SqlStatement.Proofs.Statement.Identities
import SqlStatement.Proofs.Criteria.Subjects
import SqlStatement.Proofs.Statement.Tables
import SqlStatement.Proofs.Statement.Alignment
import SqlStatement.Proofs.Statement.Records
import SqlStatement.Proofs.Statement.Clashes
import SqlStatement.Proofs.Statement.Refusals
import SqlStatement.Proofs.Statement.Clauses
import SqlStatement.Proofs.Statement.Drafts
import SqlStatement.Proofs.Text.Literals
import SqlStatement.Proofs.Phrase.Pieces
import SqlStatement.Proofs.Phrase.Fences
import SqlStatement.Proofs.Query.Literals
import SqlStatement.Proofs.Statement.Literals
import SqlStatement.Proofs.Criteria.Changes
import SqlStatement.Proofs.Parameters.Merging
import SqlStatement.Proofs.Phrase.Grouping

import RelationQuery.Config.Folder
import RelationQuery.Sql.Serialized
import RelationQuery.Store.Basic
import RelationQuery.Store.Scripted
import RelationQuery.Proofs.Aggregation.Capture
import RelationQuery.Proofs.Query.RecordKeys
import RelationQuery.Proofs.Query.Scope
import RelationQuery.Proofs.Relation.Linear
import RelationQuery.Proofs.Query.Assignment
import RelationQuery.Proofs.Aggregation.Acceptance
import RelationQuery.Proofs.Query.Acceptance
import RelationQuery.Proofs.Query.ItemKeys
import RelationQuery.Proofs.Aggregation.Independence
import RelationQuery.Proofs.Query.Aliases
import RelationQuery.Proofs.Query.Binding
import RelationQuery.Proofs.Sql.Statements
import RelationQuery.Proofs.Query.Truncation
import RelationQuery.Proofs.Query.Joins
import RelationQuery.Proofs.Aggregation.Gathering
import RelationQuery.Proofs.Store.Exchanges
import RelationQuery.Proofs.Record.WriteBack
import RelationQuery.Proofs.Query.Decisions
import RelationQuery.Proofs.Record.Normalization
import RelationQuery.Proofs.Record.FieldColumns
import RelationQuery.Proofs.Relation.Pivots
import RelationQuery.Proofs.Aggregation.KeyLiterals
import RelationQuery.Proofs.Store.Writes

import BoundSql.Connection.Pool
import BoundSql.Database.Adapter
import BoundSql.Datum
import BoundSql.Proofs.Ordinals
import BoundSql.Proofs.Scope
import BoundSql.Proofs.Exchange
import BoundSql.Proofs.Acceptance
import BoundSql.Proofs.Grouping
import BoundSql.Proofs.Transcript
import BoundSql.Proofs.Sameness
import BoundSql.Proofs.Independence
import BoundSql.Proofs.Relevance
import BoundSql.Proofs.Serialized
import BoundSql.Proofs.Discretion
import BoundSql.Proofs.Writing
import BoundSql.Proofs.Integers
import BoundSql.Proofs.Columns
import BoundSql.Proofs.Offsets
import BoundSql.Proofs.Singles
import BoundSql.Proofs.Truncation
import BoundSql.Proofs.Equality
import BoundSql.Proofs.Agreement
import BoundSql.Proofs.Propagation
import BoundSql.Proofs.References

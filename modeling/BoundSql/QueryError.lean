import BoundSql.Database.DriverError
import BoundSql.Datum
import BoundSql.Draft

/-! The errors that a statement can end in. An execution error carries the statement and its cause, and
wrapping one again leaves it as it is. A failure of the driver is carried whole, unless its code names the
violation of a constraint. -/
namespace BoundSql

open BoundSql.Database

inductive QueryError where
  | validation (message : String)
  | execution (sql : String) (cause : QueryError)
  | connection (message : String)
  | query (e : DriverError)
  | uniqueViolation (message : String)
  | foreignKeyViolation (message : String)
  | checkViolation (message : String)
  | pool (message : String)
  | other (message : String)
  deriving DecidableEq

namespace QueryError

def message : QueryError → String
  | validation text => "Validation error: " ++ text
  | execution sql cause => "Execution failed for `" ++ sql ++ "`: " ++ cause.message
  | connection text => "Connection error: " ++ text
  | query e => "Query error: " ++ e.message
  | uniqueViolation text => "Unique constraint violation: " ++ text
  | foreignKeyViolation text => "Foreign key violation: " ++ text
  | checkViolation text => "Check constraint violation: " ++ text
  | pool text => "Pool error: " ++ text
  | other text => text

def described : QueryError → String
  | validation text => Text.variant "Validation" (Text.quoted text)
  | execution sql cause =>
    Text.record "Execution" [("sql", Text.quoted sql), ("source", cause.described)]
  | connection text => Text.variant "Connection" (Text.quoted text)
  | query e => Text.variant "Query" (Text.quoted e.message)
  | uniqueViolation text => Text.variant "UniqueViolation" (Text.quoted text)
  | foreignKeyViolation text => Text.variant "ForeignKeyViolation" (Text.quoted text)
  | checkViolation text => Text.variant "CheckViolation" (Text.quoted text)
  | pool text => Text.variant "Pool" (Text.quoted text)
  | other text => Text.variant "Other" (Text.quoted text)

/-- The error with the statement that failed; an execution error already has one. -/
def during (sql : String) : QueryError → QueryError
  | execution inner cause => execution inner cause
  | cause => execution sql cause

def isValidation : QueryError → Bool
  | validation _ => true
  | _ => false

def isExecution : QueryError → Bool
  | execution _ _ => true
  | _ => false

/-- Looks through execution errors of any depth. -/
def isUniqueViolation : QueryError → Bool
  | uniqueViolation _ => true
  | execution _ cause => cause.isUniqueViolation
  | _ => false

def failedSql? : QueryError → Option String
  | execution sql _ => some sql
  | _ => none

/-- The errors inside an execution error, the nearest first. -/
def causes : QueryError → List QueryError
  | execution _ cause => cause :: cause.causes
  | _ => []

def ofRejection (reason : Rejection) : QueryError := validation reason.message

def ofPayload (reason : PayloadError) : QueryError := validation reason.message

/-- Three codes name the violation of a constraint; its name comes before the message. -/
def ofDriver (e : DriverError) : QueryError :=
  match e with
  | .report code constraint message =>
    let text := constraint.getD "unknown" ++ ": " ++ message
    if code = "23505" then uniqueViolation text
    else if code = "23503" then foreignKeyViolation text
    else if code = "23514" then checkViolation text
    else query e
  | _ => query e

end QueryError

end BoundSql

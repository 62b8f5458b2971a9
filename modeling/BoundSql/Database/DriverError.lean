import BoundSql.Keyed
import BoundSql.Text

/-! What can go wrong between a client and its server. A server reports an error in fields that are named by
letters; some of them must be there, and some have a fixed form. -/
namespace BoundSql.Database

inductive DriverError where
  | report (code : String) (constraint : Option String) (message : String)
  | unreadableReport
  | parameterCount (expected given : Nat)
  | parameter (index : Nat)
  | closed
  | other (text : String)
  deriving DecidableEq

/-- A text alone is the failure that nothing else is known of. -/
instance : Coe String DriverError := ⟨.other⟩

def DriverError.message : DriverError → String
  | report .. => "db error"
  | unreadableReport => "error parsing response from server"
  | parameterCount expected given =>
    "expected " ++ String.ofList (Text.digits expected) ++ " parameters but got " ++
      String.ofList (Text.digits given)
  | parameter index => "error serializing parameter " ++ String.ofList (Text.digits index)
  | closed => "connection closed"
  | other text => text

def severities : List String :=
  ["PANIC", "FATAL", "ERROR", "WARNING", "NOTICE", "DEBUG", "INFO", "LOG"]

abbrev Fields := List (String × String)

namespace Fields

def numeric (fields : Fields) (letter : String) : Bool :=
  (Keyed.get? letter fields).all fun text => Text.isUnsigned UInt32.size text.toList

/-- Whether the fields that have a fixed form have it. A position in a query that the server made
needs that query, unless there is a position in the query that was sent. -/
def wellFormed (fields : Fields) : Bool :=
  (Keyed.get? "V" fields).all (severities.contains ·) && fields.numeric "P" && fields.numeric "p" &&
    fields.numeric "L" &&
    ((Keyed.get? "p" fields).isNone || (Keyed.get? "P" fields).isSome ||
      (Keyed.get? "q" fields).isSome)

def error (fields : Fields) : DriverError :=
  match Keyed.get? "S" fields, Keyed.get? "C" fields, Keyed.get? "M" fields with
  | some _, some code, some message =>
    if fields.wellFormed then .report code (Keyed.get? "n" fields) message else .unreadableReport
  | _, _, _ => .unreadableReport

end Fields
end BoundSql.Database

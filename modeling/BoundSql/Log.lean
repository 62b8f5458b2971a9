import BoundSql.Draft

/-! How statements are logged: at which level, how much of their text, with or without the values of
their parameters, and from which duration on a statement counts as slow. Building a statement emits three
kinds of events, and a logging layer emits four around its execution. -/
namespace BoundSql.Log

inductive Level where
  | trace
  | debug
  | info
  | warn
  | error
  deriving DecidableEq

def Level.name : Level → String
  | trace => "TRACE"
  | debug => "DEBUG"
  | info => "INFO"
  | warn => "WARN"
  | error => "ERROR"

def Level.described : Level → String
  | trace => "Level(Trace)"
  | debug => "Level(Debug)"
  | info => "Level(Info)"
  | warn => "Level(Warn)"
  | error => "Level(Error)"

/-- A length of time in nanoseconds. -/
abbrev Duration := Nat

namespace Duration

def ofMillis (n : Nat) : Duration := 1000000 * n

def millis (d : Duration) : Nat := d / 1000000

def fractionDigits (places fraction : Nat) : List Char :=
  ((Text.padded places fraction).reverse.dropWhile (· = '0')).reverse

/-- A duration in a unit of `10 ^ places` nanoseconds. -/
def inUnit (d : Duration) (places : Nat) (symbol : String) : String :=
  let fraction := d % Nat.pow 10 places
  String.ofList (Text.digits (d / Nat.pow 10 places) ++
    if fraction = 0 then [] else '.' :: fractionDigits places fraction) ++ symbol

/-- The largest unit that the duration fills at least once. -/
def described (d : Duration) : String :=
  if Nat.pow 10 9 ≤ d then inUnit d 9 "s"
  else if Nat.pow 10 6 ≤ d then inUnit d 6 "ms"
  else if Nat.pow 10 3 ≤ d then inUnit d 3 "µs"
  else inUnit d 0 "ns"

end Duration

/-- The fields of the empty configuration are the defaults. -/
structure Config where
  level : Level := .debug
  maxSqlLength : Option Nat := some 200
  showParams : Bool := false
  slowThreshold : Option Duration := none

namespace Config

/-- The text of a statement as it is logged; a cut is marked by three points. -/
def shownSql (c : Config) (sql : String) : String :=
  match c.maxSqlLength with
  | none => sql
  | some most =>
    if sql.utf8ByteSize ≤ most then sql else Text.truncated sql most ++ "..."

/-- The parameters as they are logged: their types, or their values where those are wanted. -/
def shownParams (c : Config) (params : List Value) : String :=
  if c.showParams then Value.listDescribed params
  else Text.bracketed (params.map Value.typeName)

def isSlow (c : Config) (elapsed : Duration) : Bool :=
  match c.slowThreshold with
  | none => false
  | some threshold => threshold ≤ elapsed

def described (c : Config) : String :=
  Text.record "LogConfig" [
    ("level", c.level.described),
    ("max_sql_length", Text.optional (c.maxSqlLength.map fun n => String.ofList (Text.digits n))),
    ("log_params", Text.boolean c.showParams),
    ("slow_query_threshold", Text.optional (c.slowThreshold.map Duration.described))]

end Config

inductive Setting where
  | level (level : Level)
  | maxSqlLength (bytes : Nat)
  | noTruncation
  | showParams (shown : Bool)
  | slowThreshold (threshold : Duration)

def Config.set (c : Config) : Setting → Config
  | .level level => { c with level := level }
  | .maxSqlLength bytes => { c with maxSqlLength := some bytes }
  | .noTruncation => { c with maxSqlLength := none }
  | .showParams shown => { c with showParams := shown }
  | .slowThreshold threshold => { c with slowThreshold := some threshold }

def Config.ofSettings (settings : List Setting) : Config := settings.foldl Config.set {}

inductive Event where
  | compiled (kind : Kind) (table : String) (paramCount : Nat)
  | rejected (kind : Kind) (table error : String)
  | executing (kind : Kind) (table : String)
  | started (level : Level) (sql params : String) (paramCount : Nat)
  | finished (level : Level) (rows : Nat)
  | slow (sql : String) (rows : Nat)
  | failed (sql error : String)
  deriving DecidableEq

inductive Field where
  | text (s : String)
  | count (n : Nat)
  deriving DecidableEq

namespace Event

def level : Event → Level
  | compiled .. => .trace
  | rejected .. => .debug
  | executing .. => .debug
  | started level .. => level
  | finished level .. => level
  | slow .. => .warn
  | failed .. => .warn

def target : Event → String
  | compiled .. | rejected .. | executing .. => "pipehood.builder"
  | started .. | finished .. | slow .. | failed .. => "pipehood.sql"

def message : Event → String
  | compiled .. => "compiled statement"
  | rejected .. => "statement rejected"
  | executing .. => "executing"
  | started .. => "executing statement"
  | finished .. => "statement finished"
  | slow .. => "slow statement"
  | failed .. => "statement failed"

def fields : Event → List (String × Field)
  | compiled kind table paramCount =>
    [("kind", .text kind.keyword), ("table", .text table), ("param_count", .count paramCount)]
  | rejected kind table error =>
    [("kind", .text kind.keyword), ("table", .text table), ("error", .text error)]
  | executing kind table => [("kind", .text kind.keyword), ("table", .text table)]
  | started _ sql params paramCount =>
    [("sql", .text sql), ("params", .text params), ("param_count", .count paramCount)]
  | finished _ rows => [("rows", .count rows)]
  | slow sql rows => [("sql", .text sql), ("rows", .count rows)]
  | failed sql error => [("sql", .text sql), ("error", .text error)]

end Event
end BoundSql.Log

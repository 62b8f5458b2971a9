import BoundSql.Connection.Settings
import BoundSql.QueryError

/-! Setting up a pool of connections. Opening one only checks the connection string; connections are
made when they are first needed. -/
namespace BoundSql.Connection

/-- How a connection is checked before it is used again. -/
inductive Recycling where
  | fast
  | verified
  | clean
  | custom (sql : String)

def Recycling.described : Recycling → String
  | fast => "Fast"
  | verified => "Verified"
  | clean => "Clean"
  | custom sql => Text.variant "Custom" (Text.quoted sql)

/-- A pool has room for at least one connection. -/
structure PoolConfig where
  maxSize : Nat := 16
  recycling : Recycling := .fast
  nonempty : 1 ≤ maxSize := by decide

namespace PoolConfig

def withMaxSize (c : PoolConfig) (size : Nat) : PoolConfig :=
  { maxSize := max 1 size, recycling := c.recycling, nonempty := Nat.le_max_left 1 size }

def withRecycling (c : PoolConfig) (recycling : Recycling) : PoolConfig :=
  { c with recycling := recycling }

def described (c : PoolConfig) : String :=
  Text.record "PoolConfig" [
    ("max_size", String.ofList (Text.digits c.maxSize)),
    ("recycling_method", c.recycling.described)]

end PoolConfig

/-- Whether a text is a connection string: a URL, or else assignments. -/
def accepts (text : String) : Bool :=
  match behindScheme? text.toList with
  | some rest => acceptsUrl rest
  | none => acceptsAssignments text.toList

structure Pool where
  config : PoolConfig
  size : Nat := 0
  available : Nat := 0

def Pool.described (p : Pool) : String :=
  Text.record "PoolExecutor" [
    ("max_size", String.ofList (Text.digits p.config.maxSize)),
    ("size", String.ofList (Text.digits p.size)),
    ("available", String.ofList (Text.digits p.available))]

def openPool (text : String) (config : PoolConfig) : Except QueryError Pool :=
  if accepts text then .ok ⟨config, 0, 0⟩ else .error (.connection "invalid connection string")

end BoundSql.Connection

import Brokerage.Settings.Basic

/-!
Configuration from environment variables. The variables are read in a fixed order, and the first
that will not do is the one reported.
-/

namespace Brokerage

structure Config where
  databaseUrl : String
  maxConnections : Nat
  /-- How many instances may be live; any number if not set. -/
  instanceLimit : Option Nat
  /-- The age in seconds of an abandoned claim. -/
  claimTimeout : Nat
  deriving DecidableEq, Repr

inductive ConfigError where
  | missing (variableName : String)
  | invalid (variableName requirement : String)
  deriving DecidableEq, Repr

/-- The name of a kind of error. -/
def ConfigError.kind : ConfigError → String
  | .missing _ => "Missing"
  | .invalid _ _ => "Invalid"

def ConfigError.message : ConfigError → String
  | .missing name => "missing required environment variable: " ++ name
  | .invalid name requirement => "invalid value for " ++ name ++ ": " ++ requirement

namespace Config

open Text (isBlank trim)

def maxConnectionsOf (env : Environment) : Except ConfigError Nat :=
  let name := "BROKER_DB_MAX_CONNECTIONS"
  match Text.Numeral.read? (Nat.pow 2 32) ((env name).getD "5") with
  | some (n + 1) => .ok (n + 1)
  | _ => .error (.invalid name "must be a positive integer")

/-- A blank limit is none. -/
def instanceLimitOf (env : Environment) : Except ConfigError (Option Nat) :=
  let name := "BROKER_INSTANCE_LIMIT"
  match env name with
  | none => .ok none
  | some raw =>
    if isBlank raw then .ok none
    else
      match Text.Numeral.read? (Nat.pow 2 64) (trim raw) with
      | some n => .ok (some n)
      | none => .error (.invalid name "must be a non-negative integer")

def claimTimeoutOf (env : Environment) : Except ConfigError Nat :=
  let name := "BROKER_CLAIM_TIMEOUT_SECS"
  match Text.Numeral.read? (Nat.pow 2 64) ((env name).getD "600") with
  | some n => .ok n
  | none => .error (.invalid name "must be a non-negative integer")

def ofEnvironment (env : Environment) : Except ConfigError Config :=
  match env "BROKER_DATABASE_URL" with
  | none => .error (.missing "BROKER_DATABASE_URL")
  | some databaseUrl => do
    let maxConnections ← maxConnectionsOf env
    let instanceLimit ← instanceLimitOf env
    let claimTimeout ← claimTimeoutOf env
    return ⟨databaseUrl, maxConnections, instanceLimit, claimTimeout⟩

end Config

end Brokerage

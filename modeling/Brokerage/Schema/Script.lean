/-!
The scripts that bring a database from one schema to the next, as they are sent to a server of
either dialect.
-/

namespace Brokerage

inductive Dialect where
  | sqlite
  | postgres
  deriving DecidableEq, Repr

/-- The four steps of the schema. -/
inductive SchemaScript where
  /-- The tables, unless they exist. -/
  | baseline
  /-- A status for every instance. -/
  | instanceStatus
  /-- One live binding for each pair, and an index of requests by instance. -/
  | liveBindingIndex
  /-- A status for every binding. -/
  | bindingStatus
  deriving DecidableEq, Repr

namespace SchemaScript

/-- The text of lines, each of them ended. -/
def ofLines (lines : List String) : String := String.join (lines.map (· ++ "\n"))

def baselineSqlite : String :=
  ofLines [
    "-- Instance, binding, request, plan and ledger tables.",
    "",
    "CREATE TABLE IF NOT EXISTS service_instance_details (",
    "    id TEXT PRIMARY KEY NOT NULL,",
    "    created_at TIMESTAMP NOT NULL,",
    "    updated_at TIMESTAMP NOT NULL,",
    "    deleted_at TIMESTAMP,",
    "    name TEXT NOT NULL DEFAULT '',",
    "    location TEXT NOT NULL DEFAULT '',",
    "    url TEXT NOT NULL DEFAULT '',",
    "    other_details TEXT NOT NULL DEFAULT '\x7b\x7d',",
    "    service_id TEXT NOT NULL,",
    "    plan_id TEXT NOT NULL,",
    "    space_guid TEXT NOT NULL DEFAULT '',",
    "    organization_guid TEXT NOT NULL DEFAULT ''",
    ");",
    "",
    "CREATE TABLE IF NOT EXISTS service_binding_credentials (",
    "    id INTEGER PRIMARY KEY AUTOINCREMENT,",
    "    created_at TIMESTAMP NOT NULL,",
    "    updated_at TIMESTAMP NOT NULL,",
    "    deleted_at TIMESTAMP,",
    "    other_details TEXT NOT NULL DEFAULT '\x7b\x7d',",
    "    service_id TEXT NOT NULL,",
    "    service_instance_id TEXT NOT NULL,",
    "    binding_id TEXT NOT NULL",
    ");",
    "",
    "CREATE TABLE IF NOT EXISTS provision_request_details (",
    "    id INTEGER PRIMARY KEY AUTOINCREMENT,",
    "    created_at TIMESTAMP NOT NULL,",
    "    service_instance_id TEXT NOT NULL,",
    "    request_details TEXT NOT NULL",
    ");",
    "",
    "CREATE TABLE IF NOT EXISTS plan_details (",
    "    id TEXT PRIMARY KEY NOT NULL,",
    "    created_at TIMESTAMP NOT NULL,",
    "    updated_at TIMESTAMP NOT NULL,",
    "    deleted_at TIMESTAMP,",
    "    service_id TEXT NOT NULL,",
    "    name TEXT NOT NULL,",
    "    features TEXT NOT NULL DEFAULT ''",
    ");",
    "",
    "CREATE TABLE IF NOT EXISTS migrations (",
    "    id INTEGER PRIMARY KEY AUTOINCREMENT,",
    "    created_at TIMESTAMP NOT NULL,",
    "    migration_id INTEGER NOT NULL",
    ");"]

def baselinePostgres : String :=
  ofLines [
    "-- Instance, binding, request, plan and ledger tables.",
    "",
    "CREATE TABLE IF NOT EXISTS service_instance_details (",
    "    id VARCHAR(255) PRIMARY KEY,",
    "    created_at TIMESTAMPTZ NOT NULL,",
    "    updated_at TIMESTAMPTZ NOT NULL,",
    "    deleted_at TIMESTAMPTZ,",
    "    name TEXT NOT NULL DEFAULT '',",
    "    location TEXT NOT NULL DEFAULT '',",
    "    url TEXT NOT NULL DEFAULT '',",
    "    other_details TEXT NOT NULL DEFAULT '\x7b\x7d',",
    "    service_id TEXT NOT NULL,",
    "    plan_id TEXT NOT NULL,",
    "    space_guid TEXT NOT NULL DEFAULT '',",
    "    organization_guid TEXT NOT NULL DEFAULT ''",
    ");",
    "",
    "CREATE TABLE IF NOT EXISTS service_binding_credentials (",
    "    id BIGSERIAL PRIMARY KEY,",
    "    created_at TIMESTAMPTZ NOT NULL,",
    "    updated_at TIMESTAMPTZ NOT NULL,",
    "    deleted_at TIMESTAMPTZ,",
    "    other_details TEXT NOT NULL DEFAULT '\x7b\x7d',",
    "    service_id TEXT NOT NULL,",
    "    service_instance_id TEXT NOT NULL,",
    "    binding_id TEXT NOT NULL",
    ");",
    "",
    "CREATE TABLE IF NOT EXISTS provision_request_details (",
    "    id BIGSERIAL PRIMARY KEY,",
    "    created_at TIMESTAMPTZ NOT NULL,",
    "    service_instance_id TEXT NOT NULL,",
    "    request_details TEXT NOT NULL",
    ");",
    "",
    "CREATE TABLE IF NOT EXISTS plan_details (",
    "    id VARCHAR(255) PRIMARY KEY,",
    "    created_at TIMESTAMPTZ NOT NULL,",
    "    updated_at TIMESTAMPTZ NOT NULL,",
    "    deleted_at TIMESTAMPTZ,",
    "    service_id TEXT NOT NULL,",
    "    name TEXT NOT NULL,",
    "    features TEXT NOT NULL DEFAULT ''",
    ");",
    "",
    "CREATE TABLE IF NOT EXISTS migrations (",
    "    id BIGSERIAL PRIMARY KEY,",
    "    created_at TIMESTAMPTZ NOT NULL,",
    "    migration_id BIGINT NOT NULL",
    ");"]

def instanceStatusText : String :=
  ofLines [
    "-- Explicit instance status. Rows written before this column existed are active.",
    "",
    "ALTER TABLE service_instance_details ADD COLUMN status TEXT NOT NULL DEFAULT 'active';"]

def liveBindingIndexText : String :=
  ofLines [
    "-- At most one live binding per (instance, binding) pair.",
    "",
    "CREATE UNIQUE INDEX IF NOT EXISTS idx_binding_live_pair",
    "    ON service_binding_credentials (service_instance_id, binding_id)",
    "    WHERE deleted_at IS NULL;",
    "",
    "CREATE INDEX IF NOT EXISTS idx_provision_request_instance",
    "    ON provision_request_details (service_instance_id);"]

def bindingStatusText : String :=
  ofLines [
    "-- Bindings are claimed in pending status before credentials are minted.",
    "",
    "ALTER TABLE service_binding_credentials ADD COLUMN status TEXT NOT NULL DEFAULT 'active';"]

/-- The text of a script. Past the baseline the dialects agree. -/
def text : SchemaScript → Dialect → String
  | baseline, .sqlite => baselineSqlite
  | baseline, .postgres => baselinePostgres
  | instanceStatus, _ => instanceStatusText
  | liveBindingIndex, _ => liveBindingIndexText
  | bindingStatus, _ => bindingStatusText

end SchemaScript

end Brokerage

import Teller.Store.Error

/-!
# Migrations

The schema of the database is brought up to date by scripts, each of which is applied once. The
database keeps a journal of them, an entry for each script with its checksum.

Nothing is applied if the journal has an entry that is not finished or not known. A migration whose
script is a different one by now ends the work.
-/

namespace Teller.Store

/-- A script of the schema, with the number by which scripts are ordered. -/
structure Migration where
  version : Int
  description : String
  script : String
  /-- The SHA-384 hash of the script. -/
  checksum : List UInt8
deriving DecidableEq

namespace Migration

/-- Why the schema could not be brought up to date. -/
inductive Fault where
  /-- A statement failed that is not a script. -/
  | bookkeeping (cause : Cause)
  | script (version : Int) (cause : Cause)
  | unfinished (version : Int)
  | unknown (version : Int)
  | modified (version : Int)
deriving DecidableEq

namespace Fault

/-- What is said of a migration that failed. -/
def message : Fault → String
  | .bookkeeping cause => "while executing migrations: " ++ cause.message
  | .script version cause => s!"while executing migration {version}: " ++ cause.message
  | .unfinished version =>
    s!"migration {version} is partially applied; fix and remove row from `_sqlx_migrations` table"
  | .unknown version =>
    s!"migration {version} was previously applied but is missing in the resolved migrations"
  | .modified version => s!"migration {version} was previously applied but has been modified"

/-- The message, followed by the reasons behind it. -/
def causes (f : Fault) : List String :=
  match f with
  | .bookkeeping cause | .script _ cause => f.message :: cause.chain
  | _ => [f.message]

end Fault

/-- An entry of the journal: a version, and the checksum of the script that was applied. -/
abbrev Entry := Int × List UInt8

/-- What a database does for migrations. -/
structure Target (m : Type → Type) where
  /-- Keeps all others from migrating the same database. -/
  lock : ExceptT Cause m Unit
  unlock : ExceptT Cause m Unit
  /-- Makes the journal unless there is one. -/
  openJournal : ExceptT Cause m Unit
  /-- The version of an entry that is not finished. -/
  unfinished? : ExceptT Cause m (Option Int)
  journal : ExceptT Cause m (List Entry)
  start : ExceptT Cause m Unit
  commit : ExceptT Cause m Unit
  execute : String → ExceptT Cause m Unit
  /-- Enters a migration into the journal. -/
  enter : Migration → ExceptT Cause m Unit
  /-- Notes in the journal how long a migration took. -/
  noteDuration : Migration → ExceptT Cause m Unit

variable {m : Type → Type} [Monad m]

/-- A script and its entry in the journal, both or neither. -/
def apply (t : Target m) (x : Migration) : ExceptT Fault m Unit := do
  t.start.adapt .bookkeeping
  (t.execute x.script).adapt (.script x.version)
  (t.enter x).adapt .bookkeeping
  t.commit.adapt .bookkeeping
  (t.noteDuration x).adapt .bookkeeping

/-- The first entry whose migration is not known. -/
def unknown? (known : List Migration) (journal : List Entry) : Option Entry :=
  journal.find? fun entry => !known.any (·.version = entry.1)

/-- Applies a migration unless the journal has it. -/
def bring (t : Target m) (journal : List Entry) (x : Migration) : ExceptT Fault m Unit :=
  match journal.reverse.lookup x.version with
  | none => apply t x
  | some checksum => if checksum = x.checksum then pure () else throw (.modified x.version)

/-- Brings a database up to date. After a fault the lock is not given back. -/
def run (t : Target m) (known : List Migration) : ExceptT Fault m Unit := do
  t.lock.adapt .bookkeeping
  t.openJournal.adapt .bookkeeping
  if let some version ← t.unfinished?.adapt .bookkeeping then throw (.unfinished version)
  let journal ← t.journal.adapt .bookkeeping
  if let some entry := unknown? known journal then throw (.unknown entry.1)
  known.forM (bring t journal)
  t.unlock.adapt .bookkeeping

/-! ## The migrations of the store -/

/-- The tables of the service, with their references and indices. -/
def tables : Migration where
  version := 20240101000000
  description := "init"
  script := "CREATE TABLE users (
    username            VARCHAR PRIMARY KEY,
    full_name           VARCHAR NOT NULL,
    email               VARCHAR UNIQUE NOT NULL,
    hashed_password     VARCHAR NOT NULL,
    password_changed_at TIMESTAMPTZ NOT NULL DEFAULT '0001-01-01 00:00:00Z',
    created_at          TIMESTAMPTZ NOT NULL DEFAULT NOW()
);

CREATE TABLE accounts (
    id         BIGSERIAL PRIMARY KEY,
    owner      VARCHAR NOT NULL REFERENCES users (username),
    currency   VARCHAR NOT NULL,
    balance    BIGINT NOT NULL,
    created_at TIMESTAMPTZ NOT NULL DEFAULT NOW(),
    CONSTRAINT owner_currency_key UNIQUE (owner, currency)
);

CREATE INDEX ON accounts (owner);

CREATE TABLE entries (
    id         BIGSERIAL PRIMARY KEY,
    account_id BIGINT NOT NULL REFERENCES accounts (id),
    -- can be negative or positive
    amount     BIGINT NOT NULL,
    created_at TIMESTAMPTZ NOT NULL DEFAULT NOW()
);

CREATE INDEX ON entries (account_id);

CREATE TABLE transfers (
    id              BIGSERIAL PRIMARY KEY,
    from_account_id BIGINT NOT NULL REFERENCES accounts (id),
    to_account_id   BIGINT NOT NULL REFERENCES accounts (id),
    amount          BIGINT NOT NULL CHECK (amount > 0),
    created_at      TIMESTAMPTZ NOT NULL DEFAULT NOW()
);

CREATE INDEX ON transfers (from_account_id);
CREATE INDEX ON transfers (to_account_id);
CREATE INDEX ON transfers (from_account_id, to_account_id);

CREATE TABLE sessions (
    id                UUID PRIMARY KEY,
    username          VARCHAR NOT NULL REFERENCES users (username),
    access_token      VARCHAR NOT NULL,
    access_expires_at TIMESTAMPTZ NOT NULL,
    refresh_token     VARCHAR NOT NULL,
    refresh_expires_at TIMESTAMPTZ NOT NULL,
    user_agent        VARCHAR,
    client_ip         VARCHAR,
    is_blocked        BOOLEAN NOT NULL DEFAULT FALSE,
    created_at        TIMESTAMPTZ NOT NULL DEFAULT NOW()
);
"
  checksum := [
    0x07, 0x8f, 0xc3, 0x8f, 0x79, 0xad, 0x04, 0x95, 0x29, 0x21, 0xb1, 0x6d,
    0x22, 0x42, 0x5c, 0xb3, 0x7d, 0x34, 0xc0, 0x1b, 0xeb, 0x40, 0x08, 0x3c,
    0x76, 0x68, 0x94, 0xd8, 0xc2, 0xf3, 0x71, 0xfe, 0xf8, 0xaa, 0x1c, 0x9e,
    0xc2, 0xd7, 0x34, 0xe9, 0xca, 0x69, 0xe0, 0xd3, 0x18, 0x6f, 0xec, 0x9c]

/-- The migrations of this program, in their order. -/
def all : List Migration := [tables]

end Migration

end Teller.Store

import TenantStore.Relational.Location
import TenantStore.Startup.CommandLine
import TenantStore.Url

/-! Starting up as far as the migrated database: the store is chosen and opened,
and what happens is logged. The password of the database URL stays out of the
log. -/

namespace TenantStore.Startup

inductive Level where
  | debug
  | info
  | warn
  deriving DecidableEq, Repr

def Level.name : Level → String
  | debug => "DEBUG"
  | info => "INFO"
  | warn => "WARN"

structure LogLine where
  level : Level
  message : String
  field : Option (String × String) := none
  deriving DecidableEq, Repr

def LogLine.text (l : LogLine) : String :=
  l.level.name ++ " " ++ l.message ++
    match l.field with
    | some (name, value) => " " ++ name ++ "=" ++ value
    | none => ""

/-- How a start ends: the exit code, the log and the first line that is said
about a failure. -/
structure Outcome where
  exit : Nat
  log : List LogLine
  failure : Option String
  deriving DecidableEq, Repr

def logName : Backend → String
  | .memory => "Memory"
  | .sql => "Sql"

def starting (b : Backend) : LogLine := ⟨.info, "Starting vault", some ("backend", logName b)⟩

def connecting (url : String) : List LogLine :=
  [⟨.debug, "Database endpoint", some ("database_url", Url.mask url)⟩,
   ⟨.info, "Connecting to database...", none⟩]

def ready : List LogLine :=
  [⟨.info, "Database ready (migrations applied)", none⟩,
   ⟨.info, "--migrate-only flag set, exiting", none⟩]

/-- Migrates and ends. The store in memory has nothing to migrate. -/
def migrate (settings : Settings) : Outcome :=
  match settings.backend with
  | .memory =>
    ⟨0, [starting .memory, ⟨.warn, "--migrate-only has no effect on the memory backend", none⟩],
      none⟩
  | .sql =>
    let log := starting .sql :: connecting settings.databaseUrl
    match Relational.accessOf settings.databaseUrl with
    | .refused => ⟨1, log, some "Error: Failed to connect to database"⟩
    | .readOnly => ⟨1, log, some "Error: Failed to run migrations"⟩
    | .full => ⟨0, log ++ ready, none⟩

/-- Starts with the arguments and the environment, migrates and ends. -/
def start (arguments : List String) (environment : String → Option String) : Outcome :=
  match CommandLine.read arguments environment with
  | .error refusal => ⟨2, [], some refusal.summary⟩
  | .ok .information => ⟨0, [], none⟩
  | .ok (.run settings) => migrate settings

end TenantStore.Startup

import TenantStore.Startup

/-! The command line: starts with the given settings, migrates the database and
ends. -/

namespace TenantStore

/-- The variables of the environment that settings are read from. -/
def readEnvironment : IO (String → Option String) := do
  let backend ← IO.getEnv "STORAGE_BACKEND"
  let databaseUrl ← IO.getEnv "DATABASE_URL"
  return fun name =>
    if name = "STORAGE_BACKEND" then backend
    else if name = "DATABASE_URL" then databaseUrl
    else none

end TenantStore

def main (arguments : List String) : IO UInt32 := do
  let environment ← TenantStore.readEnvironment
  let outcome := TenantStore.Startup.start arguments environment
  for line in outcome.log do
    IO.println line.text
  match outcome.failure with
  | some text => IO.eprintln text
  | none => return 0
  return outcome.exit.toUInt32

/-! Settings of the pool of connections. Times are in seconds. -/

namespace TenantStore.Relational

structure PoolOptions where
  url : String
  maxConnections : Nat
  minConnections : Nat
  acquireTimeout : Nat
  idleTimeout : Option Nat
  maxLifetime : Option Nat
  deriving DecidableEq, Repr

namespace PoolOptions

def defaultUrl : String := "sqlite://vault.db"

def standard : PoolOptions := ⟨defaultUrl, 8, 1, 30, some 600, some 1800⟩

/-- The standard settings for the URL that the environment names, if it does. -/
def ofEnvironment (url : Option String) : PoolOptions :=
  { standard with url := url.getD defaultUrl }

/-- For serving queries: more connections, and no long waiting for one. -/
def serving (url : String) : PoolOptions := ⟨url, 15, 2, 5, some 300, some 900⟩

/-- Every connection to a database in memory has a database of its own, so there
is one connection and it is never given up. -/
def inMemory : PoolOptions := ⟨"sqlite::memory:", 1, 1, 30, none, none⟩

end PoolOptions

end TenantStore.Relational

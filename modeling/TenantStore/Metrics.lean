import TenantStore.Error

/-! What the service counts: lists served, requests rejected, items written and
durations recorded. A series that nothing was recorded for is not listed. -/

namespace TenantStore

inductive Backend where
  | memory
  | sql
  deriving DecidableEq, Repr

def Backend.name : Backend → String
  | memory => "memory"
  | sql => "sql"

/-- What can be written: a tenant's agent or a record. -/
inductive Written where
  | agent
  | record (e : Entity)
  deriving DecidableEq, Repr

def Written.name : Written → String
  | agent => "Agent"
  | record e => e.name

inductive Series where
  | queries (backend : Backend) (entity : Entity)
  | validationErrors (code : String) (entity : Entity)
  | itemsWritten (kind : Written)
  | queryDuration (entity : Entity)
  deriving DecidableEq, Repr

namespace Series

/-- The series with its labels in alphabetic order. -/
def label : Series → String
  | queries backend entity =>
    "vault_queries_total\x7bbackend=" ++ backend.name ++ ",entity=" ++ entity.name ++ "\x7d"
  | validationErrors code entity =>
    "vault_validation_errors_total\x7bcode=" ++ code ++ ",entity=" ++ entity.name ++ "\x7d"
  | itemsWritten kind => "vault_items_written_total\x7bkind=" ++ kind.name ++ "\x7d"
  | queryDuration entity => "vault_query_duration_seconds\x7bentity=" ++ entity.name ++ "\x7d"

/-- Durations are collected in a histogram, all else is a plain count. -/
def isHistogram : Series → Bool
  | queryDuration _ => true
  | _ => false

end Series

/-- A metric as announced to the collector. -/
structure MetricDescription where
  kind : String
  name : String
  description : String
  deriving DecidableEq, Repr

def describedMetrics : List MetricDescription :=
  [⟨"counter", "vault_queries_total", "Total number of paginated list queries served"⟩,
   ⟨"counter", "vault_validation_errors_total", "Total number of rejected pagination requests"⟩,
   ⟨"counter", "vault_items_written_total", "Total number of items written by the listener"⟩,
   ⟨"histogram", "vault_query_duration_seconds",
     "Time taken to serve a paginated list query in seconds"⟩]

/-- How often each series was recorded. -/
structure Metrics where
  tallies : List (Series × Nat)
  deriving DecidableEq, Repr

namespace Metrics

def empty : Metrics := ⟨[]⟩

def count (m : Metrics) (s : Series) : Nat := (m.tallies.lookup s).getD 0

def tally (s : Series) : List (Series × Nat) → List (Series × Nat)
  | [] => [(s, 1)]
  | (t, n) :: rest => if t = s then (t, n + 1) :: rest else (t, n) :: tally s rest

def record (s : Series) (m : Metrics) : Metrics := ⟨tally s m.tallies⟩

theorem count_record (m : Metrics) (s t : Series) :
    (m.record s).count t = m.count t + if t = s then 1 else 0 := by
  obtain ⟨tallies⟩ := m
  simp only [count, record]
  induction tallies with
  | nil =>
    by_cases h : t = s
    · simp [tally, h]
    · simp [tally, List.lookup_cons, h, beq_false_of_ne h]
  | cons head rest ih =>
    obtain ⟨u, n⟩ := head
    by_cases hu : u = s
    · subst hu
      by_cases ht : t = u
      · simp [tally, ht]
      · simp [tally, List.lookup_cons, ht, beq_false_of_ne ht]
    · by_cases ht : t = u
      · subst ht
        simp [tally, hu]
      · simpa [tally, List.lookup_cons, hu, beq_false_of_ne ht] using ih

end Metrics

end TenantStore

import Mathlib.Data.List.AList

/-!
# Counters of job events

The part of `MetricsRegistry` that counts the lifecycle events of jobs, one count for every label
tuple.  What the registry keeps of HTTP requests is left out.
-/

namespace Earth2Sandbox

/-- `Labels`: names and values, sorted by name. -/
abbrev Labels := List (String × String)

/-- `_labels(event=event)`. -/
def eventLabels (event : String) : Labels := [("event", event)]

structure MetricsRegistry where
  forecastJobCounts : AList fun _ : Labels => ℕ

namespace MetricsRegistry

/-- `MetricsRegistry()`. -/
def empty : MetricsRegistry := ⟨∅⟩

/-- `_forecast_job_counts.get(labels, 0)`. -/
def jobCount (registry : MetricsRegistry) (labels : Labels) : ℕ :=
  (registry.forecastJobCounts.lookup labels).getD 0

def incrementForecastJobEvent (registry : MetricsRegistry) (event : String) : MetricsRegistry :=
  let labels := eventLabels event
  ⟨registry.forecastJobCounts.insert labels (registry.jobCount labels + 1)⟩

/-- The counter of an event. -/
def counter (registry : MetricsRegistry) (event : String) : ℕ :=
  registry.jobCount (eventLabels event)

@[simp] lemma counter_empty (event : String) : empty.counter event = 0 := rfl

@[simp] lemma counter_increment_self (registry : MetricsRegistry) (event : String) :
    (registry.incrementForecastJobEvent event).counter event = registry.counter event + 1 := by
  rw [counter, jobCount, incrementForecastJobEvent, AList.lookup_insert]
  rfl

lemma counter_increment_of_ne (registry : MetricsRegistry) {event event' : String}
    (h : event' ≠ event) :
    (registry.incrementForecastJobEvent event).counter event' = registry.counter event' := by
  have hlabels : eventLabels event' ≠ eventLabels event := fun heq =>
    h (Prod.mk.inj (List.cons.inj heq).1).2
  rw [counter, jobCount, incrementForecastJobEvent, AList.lookup_insert_ne hlabels]
  rfl

end MetricsRegistry

end Earth2Sandbox

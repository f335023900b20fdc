import RetrySafe.Report.Error
import RetrySafe.Task.Backoff
import RetrySafe.Task.Runner

/-!
# Runs as documents

## Main definitions

* `Report.duration` — a duration.
* `Report.outcome`, `Report.run` — the outcome of a step and the report of a run.
* `Report.begun` — the rounds of a run and the time it took.
-/

namespace RetrySafe.Report

/-- A duration in seconds and nanoseconds. -/
def duration (d : Time.Duration) : Json :=
  .obj [("secs", .nat d.secs), ("nanos", .nat d.subsecNanos)]

/-- The bounds of a back-off. -/
def backoff (b : Task.Backoff) : Members :=
  [("state_key", .str b.key), ("floor", duration b.floor), ("ceiling", duration b.ceiling)]

/-- The outcome of a step. -/
def outcome (o : Task.Outcome) : Members :=
  (match o with
    | .done result => [("outcome", .str "done"), ("value", result)]
    | .suspend delay state =>
      [("outcome", .str "suspend"), ("delay", duration delay), ("state", .obj state)]
    | .failed e => [("outcome", .str "failed"), ("failure", taskError e)]) ++
    [("terminal", .bool o.isTerminal)]

/-- The report of a run. -/
def run (r : Task.Report) : Members :=
  (match r.ending with
    | .completed result => [("outcome", .str "completed"), ("value", result)]
    | .failed e => [("outcome", .str "failed"), ("failure", taskError e)]
    | .cancelled => [("outcome", .str "cancelled")]) ++
    [("rounds", .nat r.rounds),
      ("completed", .bool (r.ending matches .completed _))]

/-- The rounds that were begun, and the milliseconds until the end. -/
def begun (rounds : List Task.Begun) (elapsed : Nat) : Members :=
  [("seen", .arr (rounds.map fun b => .obj [("at_ms", .nat b.start), ("state", .obj b.state)])),
    ("elapsed_ms", .nat elapsed)]

end RetrySafe.Report

import CircuitRelay.Connection.Manager
import CircuitRelay.Relay.Gate
import CircuitRelay.Routing.Bootstrap
import CircuitRelay.Tasks

/-!
# Metrics

What the components count, under the names by which it is published.  Only what was ever counted
is listed.
-/

namespace CircuitRelay

/-- One published number. -/
structure Metric where
  name : String
  /-- What tells numbers of one name apart, by label. -/
  labels : List (String × String)
  value : Nat
  deriving DecidableEq, Repr

namespace Metric

/-- The numbers of a tally. -/
def ofTally {α : Type} (name : String) (labels : α → List (String × String)) (t : Tally α) :
    List Metric :=
  t.counts.map fun (a, n) => ⟨name, labels a, n⟩

/-- A number without labels, unless it is zero. -/
def ofCount (name : String) (n : Nat) : List Metric := if n = 0 then [] else [⟨name, [], n⟩]

/-- A gauge is published as a floating point number. -/
def gaugeValue (n : Nat) : Nat := (UInt64.ofNat n).toFloat.toUInt64.toNat

end Metric

/-- The numbers of the connection manager. -/
def ConnectionManager.metrics (m : ConnectionManager) : List Metric :=
  Metric.ofCount "relayd_connmgr_connections" (Metric.gaugeValue m.gauge) ++
    Metric.ofCount "relayd_connmgr_pruned_total" m.pruned ++
    Metric.ofCount "relayd_connmgr_pressure_total" m.pressure

/-- The numbers of the resource manager. -/
def ResourceManager.metrics (m : ResourceManager) : List Metric :=
  Metric.ofTally "relayd_rcmgr_blocked_total"
    (fun (kind, r) => [("resource", r.name), ("scope", kind.name)]) m.blocked

/-- The numbers of access control. -/
def AccessControl.metrics (c : AccessControl) : List Metric :=
  Metric.ofTally "relayd_acl_verdicts_total"
    (fun (action, verdict) => [("action", action.name), ("verdict", verdict.name)]) c.verdicts

/-- The numbers of the gate. -/
def RelayGate.metrics (g : RelayGate) : List Metric :=
  Metric.ofTally "relayd_relay_reservations_total" (fun o => [("outcome", o.name)])
    g.reservationOutcomes ++
  Metric.ofTally "relayd_relay_circuits_total" (fun o => [("outcome", o.name)]) g.circuitOutcomes

/-- The numbers of a relay with everything it stands on. -/
def Relay.metrics (r : Relay) : List Metric :=
  r.connections.metrics ++ r.resources.metrics ++ r.access.metrics ++ r.gate.metrics

/-- The numbers of joining the overlay. -/
def Bootstrap.metrics (b : Bootstrap) : List Metric :=
  Metric.ofTally "relayd_routing_bootstrap_total" (fun o => [("outcome", o.name)]) b.outcomes

/-- The numbers of tasks. -/
def Tasks.metrics (t : Tasks) : List Metric :=
  Metric.ofCount "relayd_executor_regular_tasks_total" (t.started.count .regular) ++
    Metric.ofCount "relayd_executor_critical_tasks_total" (t.started.count .critical) ++
    Metric.ofCount "relayd_executor_finished_regular_tasks_total" (t.finished.count .regular) ++
    Metric.ofCount "relayd_executor_finished_critical_tasks_total" (t.finished.count .critical)

/-- The port on which metrics are served; a number that is no port means none. -/
def metricsPort? (n : Int) : Option Nat := if 0 ≤ n ∧ n < 2 ^ 16 then some n.toNat else none

end CircuitRelay

import PaymentQueue.Metrics.Gateway
import PaymentQueue.Safety.Acknowledge
import PaymentQueue.Safety.Atomicity
import PaymentQueue.Safety.Cache
import PaymentQueue.Safety.Charging
import PaymentQueue.Safety.CircuitAlerts
import PaymentQueue.Safety.Coherence
import PaymentQueue.Safety.Completion
import PaymentQueue.Safety.Conservation
import PaymentQueue.Safety.Cooldown
import PaymentQueue.Safety.DeadLetters
import PaymentQueue.Safety.Envelope
import PaymentQueue.Safety.Exhaustion
import PaymentQueue.Safety.Forward
import PaymentQueue.Safety.Health
import PaymentQueue.Safety.History
import PaymentQueue.Safety.Ingress
import PaymentQueue.Safety.Isolation
import PaymentQueue.Safety.Overflow
import PaymentQueue.Safety.Metering
import PaymentQueue.Safety.Noninterference
import PaymentQueue.Safety.Orphans
import PaymentQueue.Safety.Outages
import PaymentQueue.Safety.Ownership
import PaymentQueue.Safety.Persistence
import PaymentQueue.Safety.Probe
import PaymentQueue.Safety.Protection
import PaymentQueue.Safety.Provenance
import PaymentQueue.Safety.Recovery
import PaymentQueue.Safety.Remnants
import PaymentQueue.Safety.Renewal
import PaymentQueue.Safety.Resubmission
import PaymentQueue.Safety.RetryBudget
import PaymentQueue.Safety.Rollback
import PaymentQueue.Safety.SagaStates
import PaymentQueue.Safety.Scaling
import PaymentQueue.Safety.Scheduling
import PaymentQueue.Safety.Shutdown
import PaymentQueue.Safety.Snapshot
import PaymentQueue.Safety.Solvency
import PaymentQueue.Safety.Starvation
import PaymentQueue.Safety.Sweeps
import PaymentQueue.Safety.Thresholds
import PaymentQueue.Safety.Throughput
import PaymentQueue.Safety.TokenWaits
import PaymentQueue.Safety.Trail
import PaymentQueue.Safety.Transactions
import PaymentQueue.Safety.Waiting
import PaymentQueue.Safety.WriteAhead

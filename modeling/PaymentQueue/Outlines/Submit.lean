import PaymentQueue.Runtime.Rules

/-!
# Proof outline of a submission

`SubmitOutline` lists what has to be shown about the single commands of
`PaymentService.submit`, for facts `know` chosen by the caller at each stage;
`SubmitOutline.safe` walks through the code once.
-/

namespace PaymentQueue

open Await

inductive SubmitStage where
  | idle
  /-- A lease was found, but no stored payment. -/
  | stale
  /-- A finalized idempotency record was found. -/
  | replaying
  | claimed
  | saved
  | queued
  /-- The enqueue threw. -/
  | unqueued
  deriving DecidableEq, Repr

namespace SubmitOutline

/-- The stage after the idempotency record was read. -/
def Reads (know : SubmitStage → World → Prop)
    (existing : Option IdempotencyRecord) : World → Prop :=
  know (if readsFinal existing = true then .replaying else .idle)

/-- The stage after the stored payment was looked up. -/
def Finds (know : SubmitStage → World → Prop)
    (existing : Option PaymentRecord) : World → Prop :=
  know (if existing.isSome = true then .idle else .stale)

/-- The end of a replay. -/
def Replays (id : PaymentId)
    (ends : Except Thrown SubmitPaymentResult → World → Prop)
    (existing : Option PaymentRecord) (world : World) : Prop :=
  match existing with
  | some payment => ends (.ok (.replayed payment)) world
  | none => ∀ message, ends (.error (.notFound message id)) world

variable {know : SubmitStage → World → Prop} {id : PaymentId}
  {ends : Except Thrown SubmitPaymentResult → World → Prop} {world : World}

/-- Whatever is read of the idempotency record. -/
theorem continues_reads (idle : know .idle world)
    (final : know .replaying world)
    (failed : ∀ error, ends (.error error) world)
    (outcome : Except Thrown (Option (Stored IdempotencyRecord))) :
    Continues (fun raw => Reads know (raw.bind Stored.parse?)) ends outcome
      world := by
  cases outcome with
  | error error => exact failed error
  | ok raw =>
      simp only [Continues, Reads]
      split
      · exact final
      · exact idle

/-- Whatever is found of the stored payment. -/
theorem continues_finds (idle : know .idle world) (stale : know .stale world)
    (failed : ∀ error, ends (.error error) world)
    (outcome : Except Thrown (Option (Stored PaymentRecord))) :
    Continues (fun doc => Finds know (doc.bind Stored.parse?)) ends outcome
      world := by
  cases outcome with
  | error error => exact failed error
  | ok doc =>
      simp only [Continues, Finds]
      split
      · exact idle
      · exact stale

theorem continues_replays
    (replayed : ∀ payment, ends (.ok (.replayed payment)) world)
    (failed : ∀ error, ends (.error error) world)
    (outcome : Except Thrown (Option (Stored PaymentRecord))) :
    Continues (fun doc => Replays id ends (doc.bind Stored.parse?)) ends
      outcome world := by
  cases outcome with
  | error error => exact failed error
  | ok doc =>
      simp only [Continues, Replays]
      split
      · exact replayed _
      · exact fun message => failed _

end SubmitOutline

variable {config : AppConfig} {contract : Contract (machine config)}
  {pid : Nat} {locals : Type} {vars : locals} {world : World}

structure SubmitOutline (contract : Contract (machine config)) (pid : Nat)
    (input : CreatePaymentInput) (know : SubmitStage → World → Prop)
    (ends : Except Thrown SubmitPaymentResult → World → Prop) : Prop where
  /-- A submission that has queued its job awaits nothing more. -/
  stable : ∀ stage, stage ≠ .queued → Stable contract (know stage)
  claim : ∀ now, Moves contract pid
    (.storage (.setNxIdempotency input.id
      (IdempotencyService.processingRecord input.id now now)
      config.leaseTtlSeconds)) (know .idle)
    (Continues (fun acquired =>
      know (if acquired = true then .claimed else .idle)) ends)
  readClaim : Moves contract pid (.storage (.getIdempotency input.id))
    (know .idle)
    (Continues (fun raw =>
      SubmitOutline.Reads know (raw.bind Stored.parse?)) ends)
  lookup : Moves contract pid (.storage (.hgetPayment input.id)) (know .idle)
    (Continues (fun doc =>
      SubmitOutline.Finds know (doc.bind Stored.parse?)) ends)
  recover : Moves contract pid (.storage (.delIdempotency input.id))
    (know .stale) (Continues (fun _ => know .idle) ends)
  replay : Moves contract pid (.storage (.hgetPayment input.id))
    (know .replaying)
    (Continues (fun doc =>
      SubmitOutline.Replays input.id ends (doc.bind Stored.parse?)) ends)
  conflict : ∀ world message status, know .idle world ∨ know .stale world →
    ends (.error (.conflict message input.id status)) world
  audit : ∀ event, Moves contract pid (.storage (.rpushAudit input.id event))
    (know .claimed) (Continues (fun _ => know .claimed) ends)
  save : ∀ now, Moves contract pid
    (.storage (.hsetPayment input.id
      (createPaymentRecord (PaymentService.newPayment input) now)))
    (know .claimed) (Continues (fun _ => know .saved) ends)
  emit : ∀ event, Moves contract pid (.emit event) (know .saved)
    (Continues (fun _ => know .saved) ends)
  ready : Moves contract pid
    (.storage (.queueReady (QueueManager.queueNameFor input.gatewayId)))
    (know .saved)
    (fun outcome => know (if outcome.isOk = true then .saved else .unqueued))
  add : ∀ now delay, Moves contract pid
    (.storage (.queueAdd (QueueManager.queueNameFor input.gatewayId) input.id
      (.payment ⟨input.id, input.correlationId⟩)
      (QueueManager.jobOptions (PaymentService.enqueueInput
        (createPaymentRecord (PaymentService.newPayment input) now) delay))))
    (know .saved)
    (fun outcome => know (if outcome.isOk = true then .queued else .unqueued))
  release : Moves contract pid (.storage (.delIdempotency input.id))
    (know .unqueued)
    (Continues (fun _ world =>
      ∀ message, ends (.error (.badRequest message)) world) ends)
  created : ∀ world now, know .queued world →
    ends (.ok (.created
      (createPaymentRecord (PaymentService.newPayment input) now))) world

namespace SubmitOutline

variable {input : CreatePaymentInput} {know : SubmitStage → World → Prop}
  {ends : Except Thrown SubmitPaymentResult → World → Prop}

/-- What the claim leaves behind for each of its results. -/
def Claims (know : SubmitStage → World → Prop)
    (ends : Except Thrown SubmitPaymentResult → World → Prop) :
    Except Thrown ClaimResult → World → Prop
  | .ok .new, world => know .claimed world
  | .ok (.conflict _), world => know .idle world
  | .ok (.replayed _), world => know .replaying world
  | .error error, world => ends (.error error) world

private theorem safe_claim
    (outline : SubmitOutline contract pid input know ends)
    (known : know .idle world) :
    Async.Safe contract pid (fun outcome _ => Claims know ends outcome)
      (IdempotencyService.claim config input.id) vars world := by
  refine Async.safe_bind (Async.safe_dateNow fun now => ?_)
  refine safe_continue (safe_command (outline.claim now)
    (outline.stable .idle nofun) known) ?_ (fun _ _ failed => failed)
  intro acquired claimed reached
  cases acquired with
  | true => exact Async.safe_pure reached
  | false =>
      refine safe_continue (safe_idempotencyGet outline.readClaim
        (outline.stable .idle nofun) reached) ?_ (fun _ _ failed => failed)
      intro existing afterRead read
      cases existing with
      | none => exact Async.safe_pure read
      | some existing =>
          cases state : existing.state with
          | processing =>
              simp only [state, if_true]
              apply Async.safe_pure
              simpa [Claims, Reads, readsFinal, state, IdempotencyState.final]
                using read
          | completed | failed =>
              simp only [state, reduceCtorEq, if_false]
              apply Async.safe_pure
              simpa [Claims, Reads, readsFinal, state, IdempotencyState.final]
                using read

private theorem safe_claimOrRecover
    (outline : SubmitOutline contract pid input know ends)
    (known : know .idle world) :
    Async.Safe contract pid (fun outcome _ => Claims know ends outcome)
      (PaymentService.claimOrRecover config input.id) vars world := by
  refine Async.safe_bind ((outline.safe_claim known).mono ?_)
  intro outcome left final reached
  match outcome with
  | .error error => exact reached
  | .ok .new => exact Async.safe_pure reached
  | .ok (.replayed record) => exact Async.safe_pure reached
  | .ok (.conflict record) =>
      refine safe_continue (safe_storeGet outline.lookup
        (outline.stable .idle nofun) reached) ?_ (fun _ _ failed => failed)
      intro existing afterLookup found
      cases existing with
      | some payment => exact Async.safe_pure found
      | none =>
          refine safe_continue (safe_command outline.recover
            (outline.stable .stale nofun) found) ?_ (fun _ _ failed => failed)
          intro _ released idle
          exact outline.safe_claim idle

/-- The `catch` block of the enqueue. -/
theorem safe_release (outline : SubmitOutline contract pid input know ends)
    {post : Except Thrown Unit → locals → World → Prop}
    (known : know .unqueued world) (error : Thrown)
    (fails : ∀ error current, ends (.error error) current →
      post (.error error) vars current) :
    Async.Safe contract pid post
      (do
        IdempotencyService.release input.id
        Async.throw (.badRequest
          s!"payment could not be queued: {error.message}"))
      vars world := by
  refine safe_continue (safe_command outline.release
    (outline.stable .unqueued nofun) known) ?_ fails
  intro _ released ended
  exact Async.safe_throw (fails _ _ (ended _))

private theorem safe_create
    (outline : SubmitOutline contract pid input know ends)
    (known : know .claimed world) :
    Async.Safe contract pid (fun outcome _ => ends outcome)
      (PaymentService.create input) vars world := by
  refine Async.safe_bind (Async.safe_dateNow fun now => ?_)
  refine safe_continue (safe_audit outline.audit
    (outline.stable .claimed nofun) known) ?_ (fun _ _ failed => failed)
  intro _ audited claimed
  refine safe_continue (safe_command (outline.save now)
    (outline.stable .claimed nofun) claimed) ?_ (fun _ _ failed => failed)
  intro _ stored saved
  refine safe_continue (safe_emit outline.emit
    (outline.stable .saved nofun) saved) ?_ (fun _ _ failed => failed)
  intro _ emitted saved
  refine Async.safe_bind (Async.safe_dateNow fun submittedAt => ?_)
  refine Async.safe_bind (Async.safe_tryCatch (Async.safe_bind ?_))
  apply (safe_command outline.ready (outline.stable .saved nofun) saved).mono
  intro outcome left ready reached
  obtain ⟨rfl, reached⟩ := reached
  cases outcome with
  | error error =>
      exact outline.safe_release reached error fun _ _ failed => failed
  | ok _ =>
      refine (safe_command (outline.add now _) (outline.stable .saved nofun)
        reached).mono ?_
      intro outcome left added reached
      obtain ⟨rfl, reached⟩ := reached
      cases outcome with
      | error error =>
          exact outline.safe_release reached error fun _ _ failed => failed
      | ok _ => exact Async.safe_pure (outline.created added now reached)

/-- Every way through a submission. -/
theorem safe (outline : SubmitOutline contract pid input know ends)
    (known : know .idle world) :
    Async.Safe contract pid (fun outcome _ => ends outcome)
      (PaymentService.submit config input) vars world := by
  refine Async.safe_bind ((outline.safe_claimOrRecover known).mono ?_)
  intro outcome left final reached
  match outcome with
  | .error error => exact reached
  | .ok .new => exact outline.safe_create reached
  | .ok (.conflict record) =>
      refine safe_continue (safe_storeGet outline.lookup
        (outline.stable .idle nofun) reached) ?_ (fun _ _ failed => failed)
      intro existing afterLookup found
      apply Async.safe_throw
      apply outline.conflict
      cases existing with
      | some payment => exact .inl found
      | none => exact .inr found
  | .ok (.replayed record) =>
      refine safe_continue (safe_storeGet outline.replay
        (outline.stable .replaying nofun) reached) ?_ (fun _ _ failed => failed)
      intro existing afterReplay found
      cases existing with
      | some payment => exact Async.safe_pure found
      | none => exact Async.safe_throw (found _)

/-- The same for a process that runs the submission. -/
theorem safe_code (outline : SubmitOutline contract pid input know ends)
    (known : know .idle world)
    {post : Except Thrown Output → World → Prop}
    (implies : ∀ outcome final, ends outcome final →
      post (outcome.map Output.submitted) final) (time : Nat) :
    ((Task.submit input).body config |>.start time).Safe contract pid post
      world := by
  apply Async.Safe.start
  refine Async.safe_bind ((outline.safe known).mono ?_)
  intro outcome left final ended
  cases outcome with
  | ok result => exact Async.safe_pure (implies (.ok result) final ended)
  | error error => exact implies (.error error) final ended

end SubmitOutline

end PaymentQueue

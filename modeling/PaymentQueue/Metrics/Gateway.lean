import PaymentQueue.Metrics.Bus
import PaymentQueue.Metrics.Collector

/-!
# Socket gateway

`metrics/metrics.gateway.ts`: from `onModuleInit` to `onModuleDestroy` every
transition of a payment, every saga phase and every alert that is put on the
bus is broadcast to the clients, and a timer broadcasts snapshots.

The bus is shared with other listeners, of which nothing is assumed.
-/

namespace PaymentQueue

open Await

/-- `AppEvent['type']`, for the events of the payment path. -/
inductive AppEventType where
  | payment (type : PaymentEventType)
  | jobCompleted
  | sagaPhase
  | metricsAlert
  deriving DecidableEq, Repr

def AppEvent.type : AppEvent → AppEventType
  | .payment type _ _ _ _ _ _ => .payment type
  | .jobCompleted _ _ _ _ _ => .jobCompleted
  | .sagaPhase _ _ _ _ _ => .sagaPhase
  | .metricsAlert _ _ => .metricsAlert

/-- The functions that subscribe.  Each of the seven of the gateway is a
function of its own. -/
inductive AppListener where
  | payment (type : PaymentEventType)
  | flow
  | alert
  | other (index : Nat)
  deriving DecidableEq, Repr

def AppListener.own : AppListener → Bool
  | .other _ => false
  | _ => true

/-- What is emitted to the clients. -/
inductive Frame where
  | paymentEvent (type : PaymentEventType) (paymentId : PaymentId)
      (gatewayId : String) (status : PaymentStatus) (atTime : Time)
      (detail : Detail)
  | paymentFlow (paymentId : PaymentId) (gatewayId : String)
      (phase : SagaPhase) (ok : Bool) (atTime : Time)
  | alertRaised (alert : MetricsAlertPayload)
  deriving DecidableEq, Repr

abbrev AppBus : Type := Bus AppEventType AppEvent AppListener

/-- `frames` holds what was emitted, with the position of the dispatch. -/
structure MetricsGateway where
  bus : AppBus
  server : Bool
  unsubscribe : List (AppEventType × AppListener)
  timer : Bool
  /-- Refreshes that `pushSnapshot` awaits. -/
  refreshing : Nat
  frames : List (Nat × Frame)
  snapshots : List MetricsSnapshot

namespace MetricsGateway

def create : MetricsGateway :=
  { bus := .create
    server := false
    unsubscribe := []
    timer := false
    refreshing := 0
    frames := []
    snapshots := [] }

/-- The subscriptions of `onModuleInit`. -/
def subscriptions : List (AppEventType × AppListener) :=
  [(.payment .queued, .payment .queued),
    (.payment .processing, .payment .processing),
    (.payment .completed, .payment .completed),
    (.payment .failed, .payment .failed),
    (.payment .deadLettered, .payment .deadLettered),
    (.sagaPhase, .flow),
    (.metricsAlert, .alert)]

@[irreducible] def onModuleInit (gateway : MetricsGateway) : MetricsGateway :=
  { gateway with
    bus := subscriptions.foldl (fun bus subscription =>
      bus.on subscription.1 subscription.2) gateway.bus
    unsubscribe := gateway.unsubscribe ++ subscriptions
    timer := true }

def onModuleDestroy (gateway : MetricsGateway) : MetricsGateway :=
  { gateway with
    timer := false
    bus := gateway.unsubscribe.foldl (fun bus subscription =>
      bus.off subscription.1 subscription.2) gateway.bus }

def broadcastPaymentEvent : AppEvent → Option Frame
  | .payment type paymentId gatewayId _ status atTime detail =>
      some (.paymentEvent type paymentId gatewayId status atTime detail)
  | _ => none

/-- What a listener emits to the clients. -/
def react : AppListener → AppEvent → Option Frame
  | .payment _, event => broadcastPaymentEvent event
  | .flow, .sagaPhase paymentId gatewayId phase ok atTime =>
      some (.paymentFlow paymentId gatewayId phase ok atTime)
  | .alert, .metricsAlert alert _ => some (.alertRaised alert)
  | _, _ => none

/-- The frame of a call, if the server is there. -/
def frameOf (server : Bool) (dispatches : List (Dispatch AppEvent AppListener))
    (call : Nat × AppListener) : Option (Nat × Frame) :=
  if server then
    (dispatches[call.1]?.bind fun dispatch =>
      react call.2 dispatch.event).map fun frame => (call.1, frame)
  else none

/-- The bus moves on, and the listeners that it calls emit. -/
def follow (moved : AppBus) (gateway : MetricsGateway) : MetricsGateway :=
  { gateway with
    bus := moved
    frames := gateway.frames ++
      (moved.calls.drop gateway.bus.calls.length).filterMap
        (frameOf gateway.server moved.dispatches) }

/-- Nobody but the gateway subscribes or unsubscribes its functions. -/
def foreign : Bus.Label AppEventType AppEvent AppListener → Bool
  | .on _ listener => !listener.own
  | .off _ listener => !listener.own
  | _ => true

inductive Label where
  | init
  | destroy
  /-- The server is assigned. -/
  | attach
  | bus (label : Bus.Label AppEventType AppEvent AppListener)
  | tick
  | refreshed (snapshot : Option MetricsSnapshot)

/-- `onModuleInit` is called once. -/
def step (label : Label) (gateway : MetricsGateway) : Option MetricsGateway :=
  match label with
  | .init =>
      if gateway.unsubscribe = [] then some gateway.onModuleInit else none
  | .destroy => some gateway.onModuleDestroy
  | .attach => some { gateway with server := true }
  | .bus label =>
      if foreign label then
        (Bus.step AppEvent.type label gateway.bus).map fun moved =>
          gateway.follow moved
      else none
  | .tick =>
      if gateway.timer then
        some (if gateway.server then
          { gateway with refreshing := gateway.refreshing + 1 }
          else gateway)
      else none
  | .refreshed snapshot =>
      match gateway.refreshing with
      | 0 => none
      | refreshing + 1 =>
          some { gateway with
            refreshing
            snapshots := gateway.snapshots ++ snapshot.toList }

/-- What the clients are to be told of an event. -/
def told : AppEvent → Option Frame
  | .payment type paymentId gatewayId _ status atTime detail =>
      some (.paymentEvent type paymentId gatewayId status atTime detail)
  | .sagaPhase paymentId gatewayId phase ok atTime =>
      some (.paymentFlow paymentId gatewayId phase ok atTime)
  | .metricsAlert alert _ => some (.alertRaised alert)
  | .jobCompleted _ _ _ _ _ => none

/-- The frames that a dispatch has emitted. -/
def framesOf (index : Nat) (gateway : MetricsGateway) : List Frame :=
  gateway.frames.filterMap fun frame =>
    if frame.1 = index then some frame.2 else none

/-- The function of the gateway for a type of event. -/
def listener : AppEventType → Option AppListener
  | .payment type => some (.payment type)
  | .jobCompleted => none
  | .sagaPhase => some .flow
  | .metricsAlert => some .alert

section Subscriptions

variable {bus : AppBus} {subscriptions : List (AppEventType × AppListener)}

/-- The functions of the gateway that are subscribed. -/
def ownListeners (bus : AppBus) (kind : AppEventType) : List AppListener :=
  (bus.listeners kind).filter AppListener.own

private theorem filter_erase {listener : AppListener}
    (foreign : listener.own = false) (listeners : List AppListener) :
    (listeners.erase listener).filter AppListener.own =
      listeners.filter AppListener.own := by
  induction listeners with
  | nil => rfl
  | cons head rest induction =>
      by_cases same : head = listener
      · subst same
        simp [foreign]
      · rw [List.erase_cons_tail (by simpa using same), List.filter_cons,
          List.filter_cons, induction]

private theorem ownListeners_step
    {label : Bus.Label AppEventType AppEvent AppListener}
    {moved : AppBus} (others : foreign label = true)
    (taken : Bus.step AppEvent.type label bus = some moved)
    (kind : AppEventType) : ownListeners moved kind = ownListeners bus kind := by
  cases label with
  | on kind' listener =>
      have foreign : listener.own = false := by simpa [foreign] using others
      cases taken
      rw [Bus.on]
      split
      case isTrue => rfl
      case isFalse =>
        by_cases same : kind = kind'
        · subst same
          simp [ownListeners, foreign]
        · simp [ownListeners, same]
  | off kind' listener =>
      have foreign : listener.own = false := by simpa [foreign] using others
      cases taken
      by_cases same : kind = kind'
      · subst same
        simpa [ownListeners, Bus.off] using filter_erase foreign _
      · simp [ownListeners, Bus.off, same]
  | emit event =>
      cases taken
      rfl
  | settle index failed =>
      obtain ⟨event, listener, rest, -, rfl⟩ := Bus.settle_eq_some taken
      rfl

/-- The subscriptions of `onModuleInit`, for types that are all different. -/
theorem ownListeners_on (apart : (subscriptions.map Prod.fst).Nodup)
    (own : ∀ subscription ∈ subscriptions, subscription.2.own = true)
    (absent : ∀ subscription ∈ subscriptions,
      subscription.2 ∉ bus.listeners subscription.1) (kind : AppEventType) :
    ownListeners (subscriptions.foldl (fun bus subscription =>
        bus.on subscription.1 subscription.2) bus) kind =
      ownListeners bus kind ++ (subscriptions.filter fun subscription =>
        decide (subscription.1 = kind)).map Prod.snd := by
  induction subscriptions generalizing bus with
  | nil => simp
  | cons subscription rest induction =>
      obtain ⟨first, distinct⟩ := List.nodup_cons.mp apart
      have added : subscription.2 ∉ bus.listeners subscription.1 :=
        absent _ List.mem_cons_self
      have mine := own _ List.mem_cons_self
      rw [List.foldl_cons, induction distinct
        (fun other member => own other (List.mem_cons_of_mem _ member))]
      · by_cases same : subscription.1 = kind
        · subst same
          simp [ownListeners, Bus.on, added, mine]
        · simp [ownListeners, Bus.on, added, same, Ne.symm same]
      · intro other member
        have elsewhere : other.1 ≠ subscription.1 := by
          intro same
          exact first (same ▸ List.mem_map_of_mem member)
        simpa [Bus.on, added, elsewhere] using
          absent other (List.mem_cons_of_mem _ member)

private theorem mem_off {listener : AppListener} {kind : AppEventType}
    (nodup : ∀ kind, (bus.listeners kind).Nodup)
    (left : listener ∈ (subscriptions.foldl (fun bus subscription =>
      bus.off subscription.1 subscription.2) bus).listeners kind) :
    listener ∈ bus.listeners kind ∧ (kind, listener) ∉ subscriptions := by
  induction subscriptions generalizing bus with
  | nil => exact ⟨left, List.not_mem_nil⟩
  | cons subscription rest induction =>
      have nodup' : ∀ kind, ((bus.off subscription.1
          subscription.2).listeners kind).Nodup := by
        intro kind
        by_cases same : kind = subscription.1
        · subst same
          simpa [Bus.off] using (nodup subscription.1).erase _
        · simpa [Bus.off, same] using nodup kind
      obtain ⟨kept, elsewhere⟩ := induction nodup' left
      by_cases same : kind = subscription.1
      · subst same
        simp only [Bus.off, Function.update_self,
          (nodup subscription.1).mem_erase_iff] at kept
        refine ⟨kept.2, fun member => ?_⟩
        rcases List.mem_cons.mp member with here | there
        · exact kept.1 (congrArg Prod.snd here)
        · exact elsewhere there
      · simp only [Bus.off, Function.update_of_ne same] at kept
        refine ⟨kept, fun member => ?_⟩
        rcases List.mem_cons.mp member with here | there
        · exact same (congrArg Prod.fst here)
        · exact elsewhere there

end Subscriptions

variable {gateway next : MetricsGateway}

/-- The gateway is subscribed exactly while its timer is set. -/
structure Wired (gateway : MetricsGateway) : Prop where
  follows : ∃ history, Bus.Follows history gateway.bus
  closures : gateway.unsubscribe = [] ∨ gateway.unsubscribe = subscriptions
  uninitialized : gateway.unsubscribe = [] → gateway.timer = false
  own : ∀ kind, ownListeners gateway.bus kind =
    if gateway.timer then (listener kind).toList else []
  known : ∀ frame ∈ gateway.frames,
    frame.1 < gateway.bus.dispatches.length

private theorem wired_create : Wired create where
  follows := ⟨[], Bus.follows_create⟩
  closures := .inl rfl
  uninitialized := fun _ => rfl
  own := fun _ => rfl
  known := by
    intro frame emitted
    cases emitted

private theorem follows_on {subscriptions : List (AppEventType × AppListener)}
    {bus : AppBus} (follows : ∃ history, Bus.Follows history bus) :
    ∃ history, Bus.Follows history (subscriptions.foldl
      (fun bus subscription => bus.on subscription.1 subscription.2) bus) := by
  induction subscriptions generalizing bus with
  | nil => exact follows
  | cons subscription rest induction =>
      obtain ⟨history, follows⟩ := follows
      exact induction ⟨_, follows.on subscription.1 subscription.2⟩

private theorem follows_off {subscriptions : List (AppEventType × AppListener)}
    {bus : AppBus} (follows : ∃ history, Bus.Follows history bus) :
    ∃ history, Bus.Follows history (subscriptions.foldl
      (fun bus subscription => bus.off subscription.1 subscription.2) bus) := by
  induction subscriptions generalizing bus with
  | nil => exact follows
  | cons subscription rest induction =>
      obtain ⟨history, follows⟩ := follows
      exact induction ⟨_, follows.off subscription.1 subscription.2⟩

@[simp] theorem foldl_on_dispatches
    (subscriptions : List (AppEventType × AppListener)) (bus : AppBus) :
    (subscriptions.foldl (fun bus subscription =>
      bus.on subscription.1 subscription.2) bus).dispatches =
        bus.dispatches ∧
    (subscriptions.foldl (fun bus subscription =>
      bus.on subscription.1 subscription.2) bus).calls = bus.calls := by
  induction subscriptions generalizing bus with
  | nil => exact ⟨rfl, rfl⟩
  | cons subscription rest induction =>
      rw [List.foldl_cons, (induction _).1, (induction _).2, Bus.on]
      split
      case isTrue => exact ⟨rfl, rfl⟩
      case isFalse => exact ⟨rfl, rfl⟩

@[simp] theorem foldl_off_dispatches
    (subscriptions : List (AppEventType × AppListener)) (bus : AppBus) :
    (subscriptions.foldl (fun bus subscription =>
      bus.off subscription.1 subscription.2) bus).dispatches =
        bus.dispatches ∧
    (subscriptions.foldl (fun bus subscription =>
      bus.off subscription.1 subscription.2) bus).calls = bus.calls := by
  induction subscriptions generalizing bus with
  | nil => exact ⟨rfl, rfl⟩
  | cons subscription rest induction =>
      rw [List.foldl_cons, (induction _).1, (induction _).2]
      exact ⟨rfl, rfl⟩

theorem onModuleInit_bus (gateway : MetricsGateway) :
    gateway.onModuleInit.bus = subscriptions.foldl (fun bus subscription =>
      bus.on subscription.1 subscription.2) gateway.bus := by
  rw [onModuleInit]

private theorem subscriptions_apart : (subscriptions.map Prod.fst).Nodup := by
  decide

private theorem subscriptions_own :
    ∀ subscription ∈ subscriptions, subscription.2.own = true := by
  decide

/-- Every type that is subscribed has one function. -/
theorem subscriptions_of (kind : AppEventType) :
    (subscriptions.filter fun subscription =>
      decide (subscription.1 = kind)).map Prod.snd =
        (listener kind).toList := by
  rcases kind with (_ | _ | _ | _ | _) | _ | _ | _ <;> decide

theorem Wired.init (wired : Wired gateway)
    (first : gateway.unsubscribe = []) : Wired gateway.onModuleInit := by
  have off := wired.uninitialized first
  have closed : gateway.onModuleInit.unsubscribe = subscriptions := by
    rw [onModuleInit, first, List.nil_append]
  refine ⟨?_, .inr closed, ?_, ?_, ?_⟩
  · rw [onModuleInit_bus]
    exact follows_on wired.follows
  · rw [closed]
    intro contrary
    cases contrary
  · intro kind
    have absent : ∀ subscription ∈ subscriptions,
        subscription.2 ∉ gateway.bus.listeners subscription.1 := by
      intro subscription member present
      have own := subscriptions_own subscription member
      have listed : subscription.2 ∈
          ownListeners gateway.bus subscription.1 :=
        List.mem_filter.mpr ⟨present, own⟩
      rw [wired.own, off] at listed
      cases listed
    have added :=
      ownListeners_on subscriptions_apart subscriptions_own absent kind
    rw [wired.own, off, subscriptions_of] at added
    have active : gateway.onModuleInit.timer = true := by
      rw [onModuleInit]
    rw [onModuleInit_bus, active]
    exact added
  · intro frame emitted
    rw [onModuleInit_bus, (foldl_on_dispatches _ _).1]
    apply wired.known frame
    rwa [onModuleInit] at emitted

theorem Wired.destroy (wired : Wired gateway) :
    Wired gateway.onModuleDestroy := by
  refine ⟨@follows_off gateway.unsubscribe _ wired.follows, wired.closures,
    fun _ => rfl, ?_, ?_⟩
  · intro kind
    rw [if_neg (by simp [onModuleDestroy]), ownListeners,
      List.filter_eq_nil_iff]
    intro remaining left own
    obtain ⟨history, follows⟩ := wired.follows
    obtain ⟨present, kept⟩ := mem_off follows.nodup left
    have listed : remaining ∈ ownListeners gateway.bus kind :=
      List.mem_filter.mpr ⟨present, own⟩
    rw [wired.own] at listed
    split at listed
    case isTrue active =>
      have named := Option.mem_toList.mp listed
      rcases wired.closures with none | all
      · rw [wired.uninitialized none] at active
        cases active
      · apply kept
        have paired := subscriptions_of kind
        rw [named, Option.toList_some] at paired
        have member : remaining ∈ (subscriptions.filter fun subscription =>
            decide (subscription.1 = kind)).map Prod.snd := by
          rw [paired]
          exact List.mem_singleton_self _
        obtain ⟨⟨kind', remaining'⟩, filed, rfl⟩ := List.mem_map.mp member
        obtain ⟨closure, same⟩ := List.mem_filter.mp filed
        rw [all, ← of_decide_eq_true same]
        exact closure
    case isFalse => cases listed
  · intro frame emitted
    simpa [onModuleDestroy] using wired.known frame emitted

theorem Wired.follow {label : Bus.Label AppEventType AppEvent AppListener}
    {moved : AppBus} (wired : Wired gateway) (others : foreign label = true)
    (taken : Bus.step AppEvent.type label gateway.bus = some moved) :
    Wired (gateway.follow moved) := by
  obtain ⟨history, follows⟩ := wired.follows
  have followed := follows.step taken
  refine ⟨⟨_, followed⟩, wired.closures, wired.uninitialized, ?_, ?_⟩
  · intro kind
    exact (ownListeners_step others taken kind).trans (wired.own kind)
  · intro frame emitted
    rcases List.mem_append.mp emitted with old | new
    · exact (wired.known frame old).trans_le (Bus.step_calls taken).2
    · obtain ⟨call, called, framed⟩ := List.mem_filterMap.mp new
      have known := followed.known call (List.mem_of_mem_drop called)
      rw [frameOf] at framed
      split at framed
      case isTrue =>
        obtain ⟨_, -, rfl⟩ := Option.map_eq_some_iff.mp framed
        exact known
      case isFalse => cases framed

theorem Wired.step {label : Label} (wired : Wired gateway)
    (taken : MetricsGateway.step label gateway = some next) : Wired next := by
  cases label with
  | init =>
      simp only [MetricsGateway.step] at taken
      split at taken
      case isTrue first =>
        obtain rfl := Option.some.inj taken
        exact wired.init first
      case isFalse => cases taken
  | destroy =>
      cases taken
      exact wired.destroy
  | attach =>
      cases taken
      exact { wired with }
  | bus label =>
      simp only [MetricsGateway.step] at taken
      split at taken
      case isTrue others =>
        obtain ⟨moved, moves, rfl⟩ := Option.map_eq_some_iff.mp taken
        exact wired.follow others moves
      case isFalse => cases taken
  | tick =>
      simp only [MetricsGateway.step] at taken
      split at taken
      case isTrue =>
        cases taken
        split
        case isTrue => exact { wired with }
        case isFalse => exact wired
      case isFalse => cases taken
  | refreshed snapshot =>
      simp only [MetricsGateway.step] at taken
      split at taken
      case h_1 => cases taken
      case h_2 =>
        cases taken
        exact { wired with }

private theorem wired_reached
    (reached : Reaches step (fun _ _ => True) create gateway) :
    Wired gateway :=
  reached.invariant wired_create fun _ _ _ wired _ taken => wired.step taken

/-- Calls of a dispatch become its frames. -/
theorem frames_of_calls {dispatches : List (Dispatch AppEvent AppListener)}
    {index : Nat} {event : AppEvent} {pending : List AppListener}
    (found : dispatches[index]? = some ⟨event, pending⟩)
    (calls : List (Nat × AppListener)) :
    (calls.filterMap (frameOf true dispatches)).filterMap (fun frame =>
        if frame.1 = index then some frame.2 else none) =
      (Bus.called index calls).filterMap fun listener =>
        react listener event := by
  induction calls with
  | nil => rfl
  | cons call calls induction =>
      obtain ⟨dispatch, listener⟩ := call
      simp only [Bus.called] at induction ⊢
      by_cases same : dispatch = index
      · subst same
        cases reaction : react listener event with
        | none => simp [frameOf, found, reaction, induction]
        | some frame => simp [frameOf, found, reaction, induction]
      · cases framed : frameOf true dispatches (dispatch, listener) with
        | none => simp [framed, same, induction]
        | some frame =>
            have other : frame.1 = dispatch := by
              simp only [frameOf, if_true] at framed
              obtain ⟨_, -, rfl⟩ := Option.map_eq_some_iff.mp framed
              rfl
            simp [framed, other, same, induction]

/-- The server is there, and the dispatch has emitted what its calls say. -/
structure Tells (index : Nat) (event : AppEvent)
    (snapshot : List AppListener) (gateway : MetricsGateway) : Prop where
  server : gateway.server = true
  delivers : Bus.Delivers index event snapshot gateway.bus
  frames : gateway.framesOf index = (Bus.called index
    gateway.bus.calls).filterMap fun listener => react listener event

private theorem framesOf_follow {moved : AppBus} {index : Nat}
    {calls : List (Nat × AppListener)}
    (grown : moved.calls = gateway.bus.calls ++ calls) :
    (gateway.follow moved).framesOf index = gateway.framesOf index ++
      (calls.filterMap (frameOf gateway.server moved.dispatches)).filterMap
        fun frame => if frame.1 = index then some frame.2 else none := by
  simp only [framesOf, follow, grown, List.drop_left,
    List.filterMap_append]

theorem Tells.follow {label : Bus.Label AppEventType AppEvent AppListener}
    {moved : AppBus} {index : Nat} {event : AppEvent}
    {snapshot : List AppListener} (tells : Tells index event snapshot gateway)
    (taken : Bus.step AppEvent.type label gateway.bus = some moved) :
    Tells index event snapshot (gateway.follow moved) := by
  have delivers := tells.delivers.step taken
  obtain ⟨⟨calls, grown⟩, -⟩ := Bus.step_calls taken
  refine ⟨tells.server, delivers, ?_⟩
  obtain ⟨pending, found, -⟩ := delivers
  rw [framesOf_follow grown, tells.frames, tells.server,
    frames_of_calls found]
  simp only [MetricsGateway.follow, grown, Bus.called,
    List.filterMap_append]

/-- Subscribing and unsubscribing leaves the dispatches alone. -/
theorem Tells.of_same {index : Nat} {event : AppEvent}
    {snapshot : List AppListener} (tells : Tells index event snapshot gateway)
    (server : next.server = true)
    (dispatches : next.bus.dispatches = gateway.bus.dispatches)
    (calls : next.bus.calls = gateway.bus.calls)
    (frames : next.frames = gateway.frames) :
    Tells index event snapshot next := by
  obtain ⟨pending, found, complete⟩ := tells.delivers
  refine ⟨server, ⟨pending, ?_, ?_⟩, ?_⟩
  · rw [dispatches]
    exact found
  · rw [calls]
    exact complete
  · rw [calls, ← tells.frames, framesOf, frames, framesOf]

theorem Tells.step {label : Label} {index : Nat} {event : AppEvent}
    {snapshot : List AppListener} (tells : Tells index event snapshot gateway)
    (taken : MetricsGateway.step label gateway = some next) :
    Tells index event snapshot next := by
  cases label with
  | init =>
      simp only [MetricsGateway.step] at taken
      split at taken
      case isTrue =>
        obtain rfl := Option.some.inj taken
        obtain ⟨dispatches, calls⟩ :=
          foldl_on_dispatches subscriptions gateway.bus
        rw [← onModuleInit_bus] at dispatches calls
        refine tells.of_same ?_ dispatches calls ?_
        · rw [onModuleInit]
          exact tells.server
        · rw [onModuleInit]
      case isFalse => cases taken
  | destroy =>
      cases taken
      obtain ⟨dispatches, calls⟩ :=
        foldl_off_dispatches gateway.unsubscribe gateway.bus
      exact tells.of_same tells.server dispatches calls rfl
  | attach =>
      cases taken
      exact tells.of_same rfl rfl rfl rfl
  | bus label =>
      simp only [MetricsGateway.step] at taken
      split at taken
      case isTrue =>
        obtain ⟨moved, moves, rfl⟩ := Option.map_eq_some_iff.mp taken
        exact tells.follow moves
      case isFalse => cases taken
  | tick =>
      simp only [MetricsGateway.step] at taken
      split at taken
      case isTrue =>
        cases taken
        split
        case isTrue => exact tells.of_same tells.server rfl rfl rfl
        case isFalse => exact tells
      case isFalse => cases taken
  | refreshed snapshot =>
      simp only [MetricsGateway.step] at taken
      split at taken
      case h_1 => cases taken
      case h_2 =>
        cases taken
        exact tells.of_same tells.server rfl rfl rfl

private theorem react_other (event : AppEvent) {listener : AppListener}
    (foreign : listener.own = false) : react listener event = none := by
  cases listener with
  | other index => rfl
  | payment type | flow | alert => cases foreign

/-- Of the listeners of an event only the gateway's own emits. -/
theorem filterMap_react (event : AppEvent) (snapshot : List AppListener) :
    (snapshot.filterMap fun listener => react listener event) =
      (snapshot.filter AppListener.own).filterMap fun listener =>
        react listener event := by
  induction snapshot with
  | nil => rfl
  | cons head rest induction =>
      cases own : head.own with
      | false => simp [own, react_other event own, induction]
      | true => simp [own, List.filterMap_cons, induction]

private theorem react_listener (event : AppEvent) :
    ((listener event.type).toList.filterMap fun listener =>
      react listener event) = (told event).toList := by
  cases event <;> rfl

private theorem tells_emit (wired : Wired gateway)
    (attached : gateway.server = true)
    (event : AppEvent) :
    Tells gateway.bus.dispatches.length event
      (gateway.bus.listeners event.type)
      (gateway.follow (gateway.bus.emit AppEvent.type event)) := by
  obtain ⟨history, follows⟩ := wired.follows
  have delivers := @Bus.delivers_emit _ _ _ AppEvent.type _ _ _ _ follows event
  obtain ⟨pending, found, -⟩ := id delivers
  have unframed : gateway.framesOf gateway.bus.dispatches.length = [] := by
    rw [framesOf, List.filterMap_eq_nil_iff]
    intro frame emitted
    exact if_neg (wired.known frame emitted).ne
  have uncalled : Bus.called gateway.bus.dispatches.length
      gateway.bus.calls = [] := by
    rw [Bus.called, List.filterMap_eq_nil_iff]
    intro call member
    exact if_neg (follows.known call member).ne
  refine ⟨attached, delivers, ?_⟩
  rw [framesOf_follow rfl, unframed, attached, frames_of_calls found,
    List.nil_append]
  have appended : Bus.called gateway.bus.dispatches.length
      (gateway.bus.emit AppEvent.type event).calls =
        Bus.called gateway.bus.dispatches.length gateway.bus.calls ++
          Bus.called gateway.bus.dispatches.length
            (Bus.turn gateway.bus.dispatches.length
              (gateway.bus.listeners event.type)) :=
    List.filterMap_append
  rw [show (gateway.follow (gateway.bus.emit AppEvent.type event)).bus =
    gateway.bus.emit AppEvent.type event from rfl, appended, uncalled,
    List.nil_append]

/-- Every event that is put on the bus between `onModuleInit` and
`onModuleDestroy` is broadcast as one frame, as soon as its dispatch comes to
the gateway's listener; what is put on it before or afterwards is not. -/
theorem clients_told (event : AppEvent)
    {before later : MetricsGateway}
    (reached : Reaches step (fun _ _ => True) create before)
    (attached : before.server = true)
    (onward : Reaches step (fun _ _ => True)
      (before.follow (before.bus.emit AppEvent.type event)) later) :
    ∃ pending missing,
      later.bus.dispatches[before.bus.dispatches.length]? =
        some ⟨event, pending⟩ ∧
      later.framesOf before.bus.dispatches.length ++ missing =
        (if before.timer then (told event).toList else []) ∧
      (pending = [] → missing = []) := by
  have wired := wired_reached reached
  have tells : Tells before.bus.dispatches.length event
      (before.bus.listeners event.type) later :=
    onward.invariant (tells_emit wired attached event)
      fun _ _ _ tells _ taken => tells.step taken
  obtain ⟨pending, found, complete⟩ := tells.delivers
  have framed := tells.frames
  refine ⟨pending, pending.tail.filterMap fun listener =>
    react listener event, found, ?_, ?_⟩
  · rw [framed, ← List.filterMap_append, complete, filterMap_react,
      ← ownListeners, wired.own]
    split
    case isTrue => exact react_listener event
    case isFalse => rfl
  · rintro rfl
    rfl

/-- Others have subscribed before and after the gateway. -/
def listening : List Label :=
  [.attach, .bus (.on (.payment .completed) (.other 0)), .init,
    .bus (.on (.payment .completed) (.other 1))]

/-- The gateway is destroyed before its turn comes, and the first listener
throws. -/
def closing : List Label :=
  [.destroy, .bus (.settle 0 true), .bus (.settle 0 false),
    .bus (.settle 0 false)]

def completed : AppEvent :=
  .payment .completed "p1" "stripe" none .completed 5 []

theorem clients_told_closing :
    ∃ before later : MetricsGateway, before.timer = true ∧
      later.timer = false ∧ ∃ pending missing,
        later.bus.dispatches[before.bus.dispatches.length]? =
          some ⟨completed, pending⟩ ∧
        later.framesOf before.bus.dispatches.length ++ missing =
          (if before.timer then (told completed).toList else []) ∧
        (pending = [] → missing = []) := by
  obtain ⟨before, reached, checked⟩ := exists_of_replay step (fun _ _ => true)
    listening create (fun before => before.server && before.timer &&
      (replay step (fun _ _ => true) closing
        (before.follow (before.bus.emit AppEvent.type completed))).any
          fun later => !later.timer)
    (by decide +kernel)
  simp only [Bool.and_eq_true] at checked
  obtain ⟨⟨attached, active⟩, replayed⟩ := checked
  obtain ⟨later, onward, closed⟩ := exists_of_replay step (fun _ _ => true)
    closing _ _ replayed
  exact ⟨before, later, active, by simpa using closed,
    clients_told completed (reached.mono fun _ _ _ => trivial) attached
      (onward.mono fun _ _ _ => trivial)⟩

end MetricsGateway

end PaymentQueue

import Mathlib.Data.List.Nodup
import Mathlib.Logic.Function.Basic
import PaymentQueue.Await.Transition

/-!
# Event bus

`common/event-bus.ts`: listeners subscribe to a type of event, and `emit`
calls the listeners of an event one after another, each when the one before
has settled.  While a listener is awaited anything may happen: other emissions,
subscriptions, and the removal of listeners that have not been called yet.

Events, their types and the listeners are parameters.
-/

namespace PaymentQueue

open Await

/-- A call of `emit` that goes through its snapshot of the listeners. -/
structure Dispatch (Event Listener : Type) where
  event : Event
  /-- The listener that is awaited, and those that are still to be called. -/
  pending : List Listener
  deriving DecidableEq

/-- `calls` lists the calls of listeners, each with the position of its
dispatch, and `reported` the errors that were written to the console. -/
structure Bus (Kind Event Listener : Type) where
  listeners : Kind → List Listener
  dispatches : List (Dispatch Event Listener)
  calls : List (Nat × Listener)
  reported : List Kind

namespace Bus

variable {Kind Event Listener : Type}

def create : Bus Kind Event Listener :=
  { listeners := fun _ => []
    dispatches := []
    calls := []
    reported := [] }

/-- The call of the listener whose turn it is. -/
def turn (dispatch : Nat) (pending : List Listener) : List (Nat × Listener) :=
  pending.head?.toList.map fun listener => (dispatch, listener)

/-- `emit`, up to its first `await`. -/
def emit (kindOf : Event → Kind) (event : Event)
    (bus : Bus Kind Event Listener) : Bus Kind Event Listener :=
  let snapshot := bus.listeners (kindOf event)
  { bus with
    dispatches := bus.dispatches ++ [⟨event, snapshot⟩]
    calls := bus.calls ++ turn bus.dispatches.length snapshot }

/-- The awaited listener of a dispatch has returned or thrown. -/
def settle (kindOf : Event → Kind) (index : Nat) (failed : Bool)
    (bus : Bus Kind Event Listener) : Option (Bus Kind Event Listener) :=
  match bus.dispatches[index]? with
  | some ⟨event, _ :: rest⟩ =>
      some { bus with
        dispatches := bus.dispatches.set index ⟨event, rest⟩
        calls := bus.calls ++ turn index rest
        reported :=
          if failed then bus.reported ++ [kindOf event] else bus.reported }
  | _ => none

inductive Label (Kind Event Listener : Type) where
  | on (kind : Kind) (listener : Listener)
  | off (kind : Kind) (listener : Listener)
  | emit (event : Event)
  | settle (index : Nat) (failed : Bool)

/-- The listeners that a dispatch has called, in order. -/
def called (index : Nat) (calls : List (Nat × Listener)) : List Listener :=
  calls.filterMap fun call => if call.1 = index then some call.2 else none

theorem called_append (index dispatch : Nat) (calls : List (Nat × Listener))
    (pending : List Listener) :
    called index (calls ++ turn dispatch pending) = called index calls ++
      if dispatch = index then pending.head?.toList else [] := by
  cases pending with
  | nil => simp [called, turn]
  | cons listener rest =>
      by_cases same : dispatch = index
      · simp [called, turn, same]
      · simp [called, turn, same]

private theorem mem_turn {dispatch : Nat} {pending : List Listener}
    {call : Nat × Listener} (member : call ∈ turn dispatch pending) :
    call.1 = dispatch := by
  obtain ⟨listener, -, rfl⟩ := List.mem_map.mp member
  rfl

variable {kindOf : Event → Kind} {bus next : Bus Kind Event Listener}
  {index : Nat} {failed : Bool}

theorem settle_eq_some (settled : bus.settle kindOf index failed = some next) :
    ∃ event listener rest,
      bus.dispatches[index]? = some ⟨event, listener :: rest⟩ ∧
      next = { bus with
        dispatches := bus.dispatches.set index ⟨event, rest⟩
        calls := bus.calls ++ turn index rest
        reported :=
          if failed then bus.reported ++ [kindOf event]
          else bus.reported } := by
  rw [settle] at settled
  split at settled
  case h_1 event listener rest found =>
    exact ⟨event, listener, rest, found, (Option.some.inj settled).symm⟩
  case h_2 => cases settled

variable [DecidableEq Kind] [DecidableEq Listener]

/-- A `Set` keeps the order in which its elements were added. -/
def on (kind : Kind) (listener : Listener) (bus : Bus Kind Event Listener) :
    Bus Kind Event Listener :=
  if listener ∈ bus.listeners kind then bus
  else { bus with
    listeners := Function.update bus.listeners kind
      (bus.listeners kind ++ [listener]) }

/-- The function that `on` returns. -/
def off (kind : Kind) (listener : Listener) (bus : Bus Kind Event Listener) :
    Bus Kind Event Listener :=
  { bus with
    listeners := Function.update bus.listeners kind
      ((bus.listeners kind).erase listener) }

def step (kindOf : Event → Kind) (label : Label Kind Event Listener)
    (bus : Bus Kind Event Listener) : Option (Bus Kind Event Listener) :=
  match label with
  | .on kind listener => some (bus.on kind listener)
  | .off kind listener => some (bus.off kind listener)
  | .emit event => some (bus.emit kindOf event)
  | .settle index failed => bus.settle kindOf index failed

/-- The last of the two functions that was called for the listener is `on`;
the last step of the history comes first. -/
def subscribed (kind : Kind) (listener : Listener) :
    List (Label Kind Event Listener) → Bool
  | [] => false
  | .on kind' listener' :: earlier =>
      if kind' = kind ∧ listener' = listener then true
      else subscribed kind listener earlier
  | .off kind' listener' :: earlier =>
      if kind' = kind ∧ listener' = listener then false
      else subscribed kind listener earlier
  | .emit _ :: earlier => subscribed kind listener earlier
  | .settle _ _ :: earlier => subscribed kind listener earlier

/-- What holds in every state of a run with this history. -/
structure Follows (history : List (Label Kind Event Listener))
    (bus : Bus Kind Event Listener) : Prop where
  nodup : ∀ kind, (bus.listeners kind).Nodup
  registered : ∀ kind listener,
    listener ∈ bus.listeners kind ↔ subscribed kind listener history = true
  known : ∀ call ∈ bus.calls, call.1 < bus.dispatches.length

theorem follows_create :
    Follows [] (create : Bus Kind Event Listener) where
  nodup := fun _ => List.nodup_nil
  registered := fun kind listener => by simp [create, subscribed]
  known := by
    intro call called
    cases called

theorem Follows.on {history : List (Label Kind Event Listener)}
    (follows : Follows history bus) (kind : Kind) (listener : Listener) :
    Follows (.on kind listener :: history) (bus.on kind listener) := by
  by_cases present : listener ∈ bus.listeners kind
  · rw [Bus.on, if_pos present]
    refine ⟨follows.nodup, fun kind' listener' => ?_, follows.known⟩
    rw [follows.registered, subscribed]
    split
    case isTrue same =>
      obtain ⟨rfl, rfl⟩ := same
      simpa using (follows.registered kind listener).mp present
    case isFalse => rfl
  · rw [Bus.on, if_neg present]
    refine ⟨fun kind' => ?_, fun kind' listener' => ?_, follows.known⟩
    · by_cases same : kind' = kind
      · subst same
        simpa [List.nodup_append, follows.nodup kind'] using
          fun other member => ne_of_mem_of_not_mem member present
      · simpa [same] using follows.nodup kind'
    · rw [subscribed]
      by_cases same : kind' = kind
      · subst same
        by_cases named : listener' = listener
        · simp [named]
        · simp [named, Ne.symm named, follows.registered]
      · simp [same, Ne.symm same, follows.registered]

theorem Follows.off {history : List (Label Kind Event Listener)}
    (follows : Follows history bus) (kind : Kind) (listener : Listener) :
    Follows (.off kind listener :: history) (bus.off kind listener) := by
  refine ⟨fun kind' => ?_, fun kind' listener' => ?_, follows.known⟩
  · by_cases same : kind' = kind
    · subst same
      simpa [Bus.off] using (follows.nodup kind').erase listener
    · simpa [Bus.off, same] using follows.nodup kind'
  · rw [subscribed]
    by_cases same : kind' = kind
    · subst same
      by_cases named : listener' = listener
      · simp [Bus.off, named, (follows.nodup kind').mem_erase_iff]
      · simp [Bus.off, named, Ne.symm named, follows.registered,
          (follows.nodup kind').mem_erase_iff]
    · simp [Bus.off, same, Ne.symm same, follows.registered]

theorem Follows.step {history : List (Label Kind Event Listener)}
    {label : Label Kind Event Listener} (follows : Follows history bus)
    (taken : Bus.step kindOf label bus = some next) :
    Follows (label :: history) next := by
  cases label with
  | on kind listener =>
      cases taken
      exact follows.on kind listener
  | off kind listener =>
      cases taken
      exact follows.off kind listener
  | emit event =>
      cases taken
      refine ⟨follows.nodup, follows.registered, fun call member => ?_⟩
      simp only [emit, List.length_append, List.length_singleton]
      rcases List.mem_append.mp member with old | new
      · exact Nat.lt_succ_of_lt (follows.known call old)
      · rw [mem_turn new]
        exact Nat.lt_succ_self _
  | settle index failed =>
      obtain ⟨event, listener, rest, found, rfl⟩ := settle_eq_some taken
      refine ⟨follows.nodup, follows.registered, fun call member => ?_⟩
      rw [List.length_set]
      rcases List.mem_append.mp member with old | new
      · exact follows.known call old
      · rw [mem_turn new]
        exact (List.getElem?_eq_some_iff.mp found).1

/-- Calls are only added, and so are dispatches. -/
theorem step_calls {label : Label Kind Event Listener}
    (taken : step kindOf label bus = some next) :
    (∃ calls, next.calls = bus.calls ++ calls) ∧
      bus.dispatches.length ≤ next.dispatches.length := by
  cases label with
  | on kind listener =>
      cases taken
      rw [Bus.on]
      split
      case isTrue => exact ⟨⟨[], (List.append_nil _).symm⟩, Nat.le_refl _⟩
      case isFalse => exact ⟨⟨[], (List.append_nil _).symm⟩, Nat.le_refl _⟩
  | off kind listener =>
      cases taken
      exact ⟨⟨[], (List.append_nil _).symm⟩, Nat.le_refl _⟩
  | emit event =>
      cases taken
      exact ⟨⟨_, rfl⟩, by simp [emit]⟩
  | settle index failed =>
      obtain ⟨event, listener, rest, -, rfl⟩ := settle_eq_some taken
      exact ⟨⟨_, rfl⟩, Nat.le_of_eq List.length_set.symm⟩

/-- The dispatch is on its way through this snapshot. -/
def Delivers (index : Nat) (event : Event) (snapshot : List Listener)
    (bus : Bus Kind Event Listener) : Prop :=
  ∃ pending, bus.dispatches[index]? = some ⟨event, pending⟩ ∧
    called index bus.calls ++ pending.tail = snapshot

theorem delivers_emit {history : List (Label Kind Event Listener)}
    (follows : Follows history bus) (event : Event) :
    Delivers bus.dispatches.length event (bus.listeners (kindOf event))
      (bus.emit kindOf event) := by
  have fresh : called bus.dispatches.length bus.calls = [] := by
    rw [called, List.filterMap_eq_nil_iff]
    intro call member
    exact if_neg (Nat.ne_of_lt (follows.known call member))
  refine ⟨bus.listeners (kindOf event), by simp [emit], ?_⟩
  rw [emit, called_append, fresh, if_pos rfl]
  cases bus.listeners (kindOf event) <;> rfl

theorem Delivers.step {label : Label Kind Event Listener} {event : Event}
    {snapshot : List Listener} (delivers : Delivers index event snapshot bus)
    (taken : Bus.step kindOf label bus = some next) :
    Delivers index event snapshot next := by
  obtain ⟨pending, found, complete⟩ := delivers
  have inside := (List.getElem?_eq_some_iff.mp found).1
  cases label with
  | on kind listener =>
      cases taken
      rw [Bus.on]
      split
      case isTrue => exact ⟨pending, found, complete⟩
      case isFalse => exact ⟨pending, found, complete⟩
  | off kind listener =>
      cases taken
      exact ⟨pending, found, complete⟩
  | emit event' =>
      cases taken
      refine ⟨pending, ?_, ?_⟩
      · rw [emit, List.getElem?_append_left inside]
        exact found
      · rw [emit, called_append, if_neg (Nat.ne_of_gt inside),
          List.append_nil]
        exact complete
  | settle other failed =>
      obtain ⟨event', listener, rest, found', rfl⟩ := settle_eq_some taken
      by_cases same : other = index
      · subst same
        rw [found] at found'
        cases found'
        refine ⟨rest, List.getElem?_set_self inside, ?_⟩
        rw [called_append, if_pos rfl, ← complete]
        cases rest <;> simp
      · refine ⟨pending, ?_, ?_⟩
        · rw [List.getElem?_set_ne same]
          exact found
        · rw [called_append, if_neg same, List.append_nil]
          exact complete

private theorem settle_all {event : Event} {pending : List Listener}
    (found : bus.dispatches[index]? = some ⟨event, pending⟩)
    (failures : List Bool) (enough : failures.length = pending.length) :
    ∃ returned, replay (step kindOf) (fun _ _ => true)
        (failures.map fun failed => .settle index failed) bus =
          some returned ∧
      returned.dispatches[index]? = some ⟨event, []⟩ := by
  induction failures generalizing bus pending with
  | nil =>
      obtain rfl := List.length_eq_zero_iff.mp enough.symm
      exact ⟨bus, rfl, found⟩
  | cons failed failures induction =>
      cases pending with
      | nil => cases enough
      | cons listener rest =>
          have inside := (List.getElem?_eq_some_iff.mp found).1
          have settled : step kindOf (.settle index failed) bus = some
              { bus with
                dispatches := bus.dispatches.set index ⟨event, rest⟩
                calls := bus.calls ++ turn index rest
                reported :=
                  if failed then bus.reported ++ [kindOf event]
                  else bus.reported } := by
            simp only [step, settle, found]
          rw [List.map_cons, replay, if_pos rfl, settled]
          exact induction (List.getElem?_set_self inside)
            (Nat.succ.inj enough)

/-- The steps of the bus, with the history of its labels. -/
def recorded (kindOf : Event → Kind) :
    Label Kind Event Listener →
      Bus Kind Event Listener × List (Label Kind Event Listener) →
        Option (Bus Kind Event Listener × List (Label Kind Event Listener)) :=
  observed (step kindOf) fun _ label history => label :: history

private theorem follows_reached
    {watched : Bus Kind Event Listener × List (Label Kind Event Listener)}
    (reached : Reaches (recorded kindOf) (fun _ _ => True) (create, [])
      watched) : Follows watched.2 watched.1 := by
  induction reached with
  | refl => exact follows_create
  | step _ _ taken induction =>
      obtain ⟨moved, noted⟩ := observed_eq_some.mp taken
      rw [noted]
      exact induction.step moved

private theorem delivers_reached {history : List (Label Kind Event Listener)}
    (follows : Follows history bus) (event : Event)
    (onward : Reaches (step kindOf) (fun _ _ => True)
      (bus.emit kindOf event) next) :
    Delivers bus.dispatches.length event (bus.listeners (kindOf event))
      next := by
  induction onward with
  | refl => exact delivers_emit follows event
  | step _ _ taken induction => exact induction.step taken

/-- Whatever listeners do while an event is dispatched, and whichever of them
throw, exactly those are called that were subscribed when it was emitted, once
each and in their order; when they have settled `emit` returns. -/
theorem emit_delivers (kindOf : Event → Kind) (event : Event)
    {history : List (Label Kind Event Listener)}
    {before later : Bus Kind Event Listener}
    (reached : Reaches (recorded kindOf) (fun _ _ => True) (create, [])
      (before, history))
    (onward : Reaches (step kindOf) (fun _ _ => True)
      (before.emit kindOf event) later) :
    (before.listeners (kindOf event)).Nodup ∧
      (∀ listener, listener ∈ before.listeners (kindOf event) ↔
        subscribed (kindOf event) listener history = true) ∧
      ∃ pending,
        later.dispatches[before.dispatches.length]? = some ⟨event, pending⟩ ∧
        called before.dispatches.length later.calls ++ pending.tail =
          before.listeners (kindOf event) ∧
        ∀ failures : List Bool, failures.length = pending.length →
          ∃ returned, replay (step kindOf) (fun _ _ => true)
              (failures.map fun failed =>
                .settle before.dispatches.length failed) later =
                  some returned ∧
            returned.dispatches[before.dispatches.length]? =
              some ⟨event, []⟩ ∧
            called before.dispatches.length returned.calls =
              before.listeners (kindOf event) := by
  have follows : Follows history before := follows_reached reached
  obtain ⟨pending, found, complete⟩ := delivers_reached follows event onward
  refine ⟨follows.nodup _, follows.registered _, pending, found, complete, ?_⟩
  intro failures enough
  obtain ⟨returned, replayed, ended⟩ := @settle_all _ _ _ kindOf later _ _ _
    _ _ found failures enough
  have settled : Reaches (step kindOf) (fun _ _ => True) later returned :=
    (reaches_of_replay replayed).mono fun _ _ _ => trivial
  obtain ⟨pending', found', complete'⟩ :=
    delivers_reached follows event (onward.trans settled)
  rw [ended] at found'
  cases found'
  exact ⟨returned, replayed, ended, by simpa using complete'⟩

/-- The first of three listeners throws, and the second unsubscribes the third
while it is awaited. -/
def threeListeners : List (Label Unit Unit Nat) :=
  [.on () 1, .on () 2, .on () 3, .on () 1]

def unsubscribing : List (Label Unit Unit Nat) :=
  [.settle 0 true, .off () 3, .settle 0 false]

theorem emit_delivers_unsubscribing :
    ∃ before later : Bus Unit Unit Nat,
      before.listeners () = [1, 2, 3] ∧ later.listeners () = [1, 2] ∧
      ∃ pending,
        later.dispatches[before.dispatches.length]? = some ⟨(), pending⟩ ∧
        called before.dispatches.length later.calls ++ pending.tail =
          before.listeners () := by
  obtain ⟨⟨before, history⟩, reached, checked⟩ := exists_of_replay
    (recorded fun _ => ()) (fun _ _ => true) threeListeners (create, [])
    (fun watched => decide (watched.1.listeners () = [1, 2, 3]) &&
      (replay (step fun _ => ()) (fun _ _ => true) unsubscribing
        (watched.1.emit (fun _ => ()) ())).any
          fun later : Bus Unit Unit Nat =>
            decide (later.listeners () = [1, 2]))
    (by decide +kernel)
  rw [Bool.and_eq_true, decide_eq_true_eq] at checked
  obtain ⟨listening, replayed⟩ := checked
  obtain ⟨later, onward, left⟩ := exists_of_replay _ (fun _ _ => true)
    unsubscribing _ _ replayed
  obtain ⟨-, -, pending, found, complete, -⟩ := emit_delivers (fun _ => ()) ()
    (reached.mono fun _ _ _ => trivial) (onward.mono fun _ _ _ => trivial)
  exact ⟨before, later, listening, of_decide_eq_true left, pending, found,
    complete⟩

end Bus

end PaymentQueue

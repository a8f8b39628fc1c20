import Mathlib.Data.List.Basic

/-!
# Bounded queues

A bounded queue between tasks: any number of senders, one receiver, and at most `capacity` waiting
items. `trySend` is refused when the queue is full and after the receiver is gone; a sender that
awaits room is a sender whose step is not taken until `trySend` succeeds. `recv` takes the oldest
item. With nothing left to take it reports the end once every sender is gone, and waits otherwise.
The receiver takes the waiting items with it when it goes.
-/

set_option autoImplicit false
set_option relaxedAutoImplicit false

namespace EntroTunnel.Foundation

/-- A bounded queue with the presence of its two ends. -/
structure Channel (Item : Type*) (capacity : ℕ) where
  items : List Item
  hasSender : Bool
  hasReceiver : Bool
  length_le : items.length ≤ capacity
  deriving DecidableEq

/-- What a receiver finds. -/
inductive Received (Item : Type*) (capacity : ℕ)
  | item (item : Item) (rest : Channel Item capacity)
  | ended
  | waiting

namespace Channel

variable {Item : Type*} {capacity : ℕ}

/-- A queue with both ends and nothing in it. -/
def empty : Channel Item capacity :=
  ⟨[], true, true, Nat.zero_le capacity⟩

/-- Append an item; refused when the queue is full or nobody receives. -/
def trySend (channel : Channel Item capacity) (item : Item) : Option (Channel Item capacity) :=
  if h : channel.hasReceiver = true ∧ channel.items.length < capacity then
    some { channel with
      items := channel.items ++ [item]
      length_le := by rw [List.length_append]; exact h.2 }
  else none

/-- `trySend` by a sender that does not look at the outcome. -/
def offer (channel : Channel Item capacity) (item : Item) : Channel Item capacity :=
  (channel.trySend item).getD channel

/-- Append an item if there is one. -/
def put (channel : Channel Item capacity) : Option Item → Option (Channel Item capacity)
  | some item => channel.trySend item
  | none => some channel

/-- Take the oldest item. -/
def recv (channel : Channel Item capacity) : Received Item capacity :=
  match h : channel.items with
  | item :: rest =>
    .item item { channel with
      items := rest
      length_le := Nat.le_of_succ_le (by simpa [h] using channel.length_le) }
  | [] => if channel.hasSender then .waiting else .ended

/-- The last sender is dropped; what waits can still be received. -/
def dropSender (channel : Channel Item capacity) : Channel Item capacity :=
  { channel with hasSender := false }

/-- The receiver is dropped, with what waits. -/
def dropReceiver (channel : Channel Item capacity) : Channel Item capacity :=
  { channel with
    items := []
    hasReceiver := false
    length_le := Nat.zero_le capacity }

@[simp] theorem items_empty : (empty : Channel Item capacity).items = [] := rfl

@[simp] theorem items_dropSender (channel : Channel Item capacity) :
    channel.dropSender.items = channel.items := rfl

@[simp] theorem hasReceiver_dropSender (channel : Channel Item capacity) :
    channel.dropSender.hasReceiver = channel.hasReceiver := rfl

@[simp] theorem hasSender_dropSender (channel : Channel Item capacity) :
    channel.dropSender.hasSender = false := rfl

@[simp] theorem items_dropReceiver (channel : Channel Item capacity) :
    channel.dropReceiver.items = [] := rfl

@[simp] theorem hasReceiver_dropReceiver (channel : Channel Item capacity) :
    channel.dropReceiver.hasReceiver = false := rfl

@[simp] theorem hasSender_dropReceiver (channel : Channel Item capacity) :
    channel.dropReceiver.hasSender = channel.hasSender := rfl

/-- An accepted item is the newest of a queue that had room. -/
theorem trySend_eq_some {channel next : Channel Item capacity} {item : Item}
    (hsend : channel.trySend item = some next) :
    channel.hasReceiver = true ∧ channel.items.length < capacity ∧
      next.items = channel.items ++ [item] ∧ next.hasSender = channel.hasSender ∧
        next.hasReceiver = channel.hasReceiver := by
  unfold trySend at hsend
  split_ifs at hsend with h
  obtain rfl := Option.some.inj hsend
  exact ⟨h.1, h.2, rfl, rfl, rfl⟩

/-- What is put into a queue is its newest item. -/
theorem put_eq_some {channel next : Channel Item capacity} {item : Option Item}
    (hput : channel.put item = some next) :
    next.items = channel.items ++ item.toList ∧ next.hasSender = channel.hasSender ∧
      next.hasReceiver = channel.hasReceiver := by
  cases item with
  | none =>
    obtain rfl := Option.some.inj hput
    exact ⟨(List.append_nil _).symm, rfl, rfl⟩
  | some item => exact (trySend_eq_some hput).2.2

/-- A send is refused exactly by a full queue or one that nobody receives from. -/
theorem trySend_eq_none {channel : Channel Item capacity} {item : Item} :
    channel.trySend item = none ↔
      (channel.hasReceiver = true → capacity ≤ channel.items.length) := by
  unfold trySend
  split_ifs with h
  · simpa using h
  · simpa using h

/-- An offered item is the newest one, or dropped. -/
theorem items_offer (channel : Channel Item capacity) (item : Item) :
    (channel.offer item).items =
      if channel.hasReceiver = true ∧ channel.items.length < capacity then channel.items ++ [item]
      else channel.items := by
  unfold offer trySend
  split_ifs <;> rfl

@[simp] theorem hasSender_offer (channel : Channel Item capacity) (item : Item) :
    (channel.offer item).hasSender = channel.hasSender := by
  unfold offer trySend
  split_ifs <;> rfl

@[simp] theorem hasReceiver_offer (channel : Channel Item capacity) (item : Item) :
    (channel.offer item).hasReceiver = channel.hasReceiver := by
  unfold offer trySend
  split_ifs <;> rfl

/-- A received item was the oldest. -/
theorem recv_eq_item {channel rest : Channel Item capacity} {item : Item}
    (hrecv : channel.recv = .item item rest) :
    channel.items = item :: rest.items ∧ rest.hasSender = channel.hasSender ∧
      rest.hasReceiver = channel.hasReceiver := by
  unfold recv at hrecv
  split at hrecv
  · rename_i hitems
    obtain ⟨rfl, rfl⟩ := Received.item.inj hrecv
    exact ⟨hitems, rfl, rfl⟩
  · split_ifs at hrecv

/-- A queue with something in it yields its oldest item. -/
theorem exists_recv {channel : Channel Item capacity} (hitems : channel.items ≠ []) :
    ∃ item rest, channel.recv = .item item rest := by
  unfold recv
  split
  · exact ⟨_, _, rfl⟩
  · exact absurd ‹_› hitems

/-- A queue with room that is received from takes an item. -/
theorem exists_trySend {channel : Channel Item capacity} (hreceiver : channel.hasReceiver = true)
    (hroom : channel.items.length < capacity) (item : Item) :
    ∃ next, channel.trySend item = some next := by
  unfold trySend
  rw [dif_pos ⟨hreceiver, hroom⟩]
  exact ⟨_, rfl⟩

/-- A queue has ended when it is empty and without senders. -/
theorem recv_eq_ended {channel : Channel Item capacity} (hrecv : channel.recv = .ended) :
    channel.items = [] ∧ channel.hasSender = false := by
  unfold recv at hrecv
  split at hrecv
  · exact absurd hrecv nofun
  · rename_i hitems
    split_ifs at hrecv with hsender
    exact ⟨hitems, Bool.eq_false_iff.mpr hsender⟩

/-- A receiver waits for a sender of an empty queue. -/
theorem recv_eq_waiting {channel : Channel Item capacity} (hrecv : channel.recv = .waiting) :
    channel.items = [] ∧ channel.hasSender = true := by
  unfold recv at hrecv
  split at hrecv
  · exact absurd hrecv nofun
  · rename_i hitems
    split_ifs at hrecv with hsender
    exact ⟨hitems, hsender⟩

end Channel

end EntroTunnel.Foundation

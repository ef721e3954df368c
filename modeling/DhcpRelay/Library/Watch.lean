/-!
# DhcpRelay.Library.Watch

**A watch channel**: one value that is replaced, and receivers that wait for it to be. Each
replacement gets a version, and a receiver notes the last version it has seen.

* A receiver that is subscribed has seen what was sent before it; one that is cloned has
  seen what the original has.
* A value that is sent is news to all receivers there are (`send_of_heard`), unless there are
  none: then it is lost.
-/

namespace DhcpRelay.Library

universe u

structure Watch (α : Type u) where
  value : α
  version : Nat := 0
  receivers : Nat := 0

namespace Watch

/-- A receiver, by the version it has seen. -/
structure Receiver where
  seen : Nat

variable {α : Type u}

/-- A channel and its first receiver. -/
def channel (value : α) : Watch α × Receiver := ({ value := value, receivers := 1 }, ⟨0⟩)

/-- Nothing is sent where there is no receiver. -/
def send (w : Watch α) (value : α) : Watch α :=
  if w.receivers = 0 then w else { w with value := value, version := w.version + 1 }

def subscribe (w : Watch α) : Watch α × Receiver :=
  ({ w with receivers := w.receivers + 1 }, ⟨w.version⟩)

def clone (w : Watch α) (rx : Receiver) : Watch α × Receiver :=
  ({ w with receivers := w.receivers + 1 }, rx)

/-- A receiver is dropped. -/
def drop (w : Watch α) : Watch α := { w with receivers := w.receivers - 1 }

/-- A receiver is done waiting where there is a version it has not seen, and has seen it
then. -/
def changed (w : Watch α) (rx : Receiver) : Option Receiver :=
  if rx.seen < w.version then some ⟨w.version⟩ else none

variable {w : Watch α} {rx : Receiver} {value : α}

@[simp] theorem version_subscribe : w.subscribe.1.version = w.version := rfl

@[simp] theorem version_clone : (w.clone rx).1.version = w.version := rfl

theorem changed_of_lt (h : rx.seen < w.version) : w.changed rx = some ⟨w.version⟩ := if_pos h

theorem changed_of_not_lt (h : ¬ rx.seen < w.version) : w.changed rx = none := if_neg h

theorem send_of_heard (h : w.receivers ≠ 0) :
    w.send value = { w with value := value, version := w.version + 1 } := if_neg h

theorem receivers_send : (w.send value).receivers = w.receivers := by
  rw [send]
  split <;> rfl

theorem version_le_send : w.version ≤ (w.send value).version := by
  rw [send]
  split
  · exact Nat.le_refl _
  · exact Nat.le_succ _

end Watch

end DhcpRelay.Library

import MetricAlerts.Alert

/-! Events in the life of alerts and the bus on which they are published. -/

namespace MetricAlerts

inductive Event where
  | created (alert : Alert)
  | updated (alert : Alert)
  | resolved (alert : Alert)
  | patternsDetected (analysis : PatternAnalysis)

namespace Event

def kind : Event → String
  | .created _ => "created"
  | .updated _ => "updated"
  | .resolved _ => "resolved"
  | .patternsDetected _ => "patterns_detected"

/-- The alert that the event is about. -/
def alert? : Event → Option Alert
  | .created alert => some alert
  | .updated alert => some alert
  | .resolved alert => some alert
  | .patternsDetected _ => none

end Event

/-- All events that have been published. Only the last `capacity` of them can still be received. -/
structure Bus where
  capacity : Nat
  published : Array Event

namespace Bus

/-- The least power of two that is not below `n`. -/
def powerAtLeast (n : Nat) : Nat := go n 1
where
  go : Nat → Nat → Nat
    | 0, p => p
    | fuel + 1, p => if n ≤ p then p else go fuel (2 * p)

/-- A bus for `buffer` events, rounded up to a power of two. -/
def empty (buffer : Nat) : Bus := ⟨powerAtLeast buffer, #[]⟩

def publish (b : Bus) (e : Event) : Bus := { b with published := b.published.push e }

/-- The place in the sequence of events where a new subscription starts. -/
def tail (b : Bus) : Nat := b.published.size

/-- The place of the oldest event that can still be received. -/
def oldest (b : Bus) : Nat := b.published.size - b.capacity

/-- What a subscription at a place of the sequence finds. -/
inductive Received where
  | event (e : Event)
  /-- Events have been overwritten; the subscription goes on at the oldest one. -/
  | lagged (missed : Nat)
  | empty

def receive (b : Bus) (place : Nat) : Received :=
  if place < b.oldest then .lagged (b.oldest - place)
  else
    match b.published[place]? with
    | some e => .event e
    | none => .empty

end Bus

end MetricAlerts

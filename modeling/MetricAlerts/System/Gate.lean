/-! The gate of the alert store. Those who read are let in together and those who write alone.
Whoever finds the gate closed lines up. -/

namespace MetricAlerts

inductive Access where
  | read
  | write
  deriving DecidableEq, Repr

/-- Who wants to get at the store: a task, or one of the strands of a task that does several things
side by side. -/
structure Visitor where
  task : Nat
  strand : Nat
  deriving DecidableEq, Repr

/-- Those who have been let in and not come yet, and those who wait, each in their order. -/
structure Gate where
  expected : List (Visitor × Access)
  queue : List (Visitor × Access)
  deriving Repr

namespace Gate

def empty : Gate := ⟨[], []⟩

/-- Whether somebody can be let in while others are expected. -/
def admits (expected : List (Visitor × Access)) : Access → Bool
  | .read => expected.all fun v => v.2 = .read
  | .write => expected.isEmpty

/-- Whether somebody who comes now need not wait. -/
def isOpen (g : Gate) (access : Access) : Bool := g.queue.isEmpty && admits g.expected access

def expects (g : Gate) (visitor : Visitor) : Bool := g.expected.any fun v => v.1 = visitor

/-- The gate at which somebody waits. -/
def lineUp (g : Gate) (visitor : Visitor) (access : Access) : Gate :=
  if g.queue.any fun v => v.1 = visitor then g
  else { g with queue := g.queue ++ [(visitor, access)] }

/-- The gate at which somebody has a place: inside if it is open, else in the queue. -/
def reserve (g : Gate) (visitor : Visitor) (access : Access) : Gate :=
  if g.expects visitor then g
  else if g.isOpen access then { g with expected := g.expected ++ [(visitor, access)] }
  else g.lineUp visitor access

/-- The gate through which as many from the front of a queue have been let in as it admits. -/
def letIn (expected : List (Visitor × Access)) : List (Visitor × Access) → Gate
  | [] => ⟨expected, []⟩
  | next :: queue =>
    if admits expected next.2 then letIn (expected ++ [next]) queue else ⟨expected, next :: queue⟩

/-- The gate after the visit of somebody who was expected, and those who are let in then. -/
def afterVisit (g : Gate) (visitor : Visitor) : List Visitor × Gate :=
  let expected := g.expected.filter fun v => v.1 ≠ visitor
  let gate := letIn expected g.queue
  ((gate.expected.drop expected.length).map Prod.fst, gate)

/-- Readers at the front of the queue are let in together, up to the first who writes. -/
example :
    (afterVisit
      ⟨[(⟨0, 0⟩, .write)], [(⟨1, 0⟩, .read), (⟨2, 0⟩, .read), (⟨0, 0⟩, .write), (⟨3, 0⟩, .read)]⟩
      ⟨0, 0⟩).1 = [⟨1, 0⟩, ⟨2, 0⟩] := by
  decide

end Gate

end MetricAlerts

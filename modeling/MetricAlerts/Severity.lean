import MetricAlerts.Json.Form

/-! Severities, from the least to the most urgent. -/

namespace MetricAlerts

inductive Severity where
  | info
  | warning
  | error
  | critical
  deriving DecidableEq, Repr

namespace Severity

instance : Inhabited Severity := ⟨.warning⟩

def name : Severity → String
  | .info => "info"
  | .warning => "warning"
  | .error => "error"
  | .critical => "critical"

def ofName? : String → Option Severity
  | "info" => some .info
  | "warning" => some .warning
  | "error" => some .error
  | "critical" => some .critical
  | _ => none

/-- The place in the order of urgency. -/
def rank : Severity → Nat
  | .info => 0
  | .warning => 1
  | .error => 2
  | .critical => 3

instance : LE Severity := ⟨fun a b => a.rank ≤ b.rank⟩

instance : LT Severity := ⟨fun a b => a.rank < b.rank⟩

instance (a b : Severity) : Decidable (a ≤ b) := inferInstanceAs (Decidable (a.rank ≤ b.rank))

instance (a b : Severity) : Decidable (a < b) := inferInstanceAs (Decidable (a.rank < b.rank))

instance : Ord Severity := ⟨fun a b => compare a.rank b.rank⟩

instance : Max Severity := ⟨fun a b => if a ≤ b then b else a⟩

def toJson (s : Severity) : Json := .string s.name

def read? : Document → Option Severity := Document.choice? ofName?

def form : Json.Form := .choice fun name => (ofName? name).isSome

@[simp] theorem ofName?_name (s : Severity) : ofName? s.name = some s := by cases s <;> rfl

end Severity

end MetricAlerts

import MetricAlerts.Json.Record

/-! Comparisons between a resolved value and a threshold. -/

namespace MetricAlerts

inductive Comparison where
  | greater
  | greaterOrEqual
  | less
  | lessOrEqual
  | equal
  | notEqual
  deriving DecidableEq, Repr

namespace Comparison

def symbol : Comparison → String
  | .greater => ">"
  | .greaterOrEqual => ">="
  | .less => "<"
  | .lessOrEqual => "<="
  | .equal => "=="
  | .notEqual => "!="

def ofSymbol? : String → Option Comparison
  | ">" => some .greater
  | ">=" => some .greaterOrEqual
  | "<" => some .less
  | "<=" => some .lessOrEqual
  | "==" => some .equal
  | "!=" => some .notEqual
  | _ => none

/-- Comparison of floats: nothing but `notEqual` holds of one that is no number, and the two zeros
are equal. -/
def holds (c : Comparison) (value threshold : Float) : Bool :=
  match c with
  | .greater => threshold < value
  | .greaterOrEqual => threshold ≤ value
  | .less => value < threshold
  | .lessOrEqual => value ≤ threshold
  | .equal => value == threshold
  | .notEqual => value != threshold

def toJson (c : Comparison) : Json := .string c.symbol

def read? : Document → Option Comparison := Document.choice? ofSymbol?

@[simp] theorem ofSymbol?_symbol (c : Comparison) : ofSymbol? c.symbol = some c := by
  cases c <;> rfl

end Comparison

end MetricAlerts

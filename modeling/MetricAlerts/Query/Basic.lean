import MetricAlerts.Dict

/-! Queries, which address a number in a metrics snapshot, and their text. -/

namespace MetricAlerts

inductive Query where
  /-- A metric by its name and the labels it must carry. -/
  | selector (metric : String) (labels : Dict String)
  /-- Keys and indexes to follow from the root. -/
  | path (segments : List String)
  /-- A key of the root. -/
  | key (key : String)
  deriving DecidableEq

/-- Why a text is no query. -/
inductive QueryError where
  | empty
  | unclosedSelector (query : String)
  | missingMetricName (query : String)
  | invalidMatcher (matcher : String)
  | emptySegment (query : String)
  deriving DecidableEq, Repr

def QueryError.message : QueryError → String
  | .empty => "Query is empty"
  | .unclosedSelector query => "Label selector is missing a closing brace: " ++ query
  | .missingMetricName query => "Label selector has no metric name: " ++ query
  | .invalidMatcher matcher =>
    "Invalid label matcher '" ++ matcher ++ "', expected name=\"value\""
  | .emptySegment query => "Dot path has an empty segment: " ++ query

/-- A label with its value in double quotes. -/
def Query.matcherText (label : String × String) : List Char :=
  label.1.toList ++ '=' :: '"' :: label.2.toList ++ ['"']

/-- The characters of the text of a query. -/
def Query.chars : Query → List Char
  | .selector metric labels =>
    metric.toList ++ '{' :: [','].intercalate (labels.entries.map matcherText) ++ ['}']
  | .path segments => ['.'].intercalate (segments.map String.toList)
  | .key name => name.toList

/-- The text of a query; label values are written as they are between double quotes. -/
def Query.text (q : Query) : String := String.ofList q.chars

end MetricAlerts

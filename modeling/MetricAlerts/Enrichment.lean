import MetricAlerts.Alert
import MetricAlerts.Channel

/-! The annotations that an analyzer's answers add to an alert. Empty answers add nothing. -/

namespace MetricAlerts.Enrichment

def recommendationsKey : String := "aiRecommendations"

def correlationsKey : String := "aiCorrelations"

def explanationKey : String := "aiExplanation"

def anomaliesKey : String := "aiAnomalies"

def enrichedAtKey : String := "enrichedAt"

def recommendationFields (x : Recommendations) : List (String × Json) :=
  if x.recommendations.isEmpty then []
  else [(recommendationsKey, .array (x.recommendations.map Recommendation.toJson))]

def correlationFields (x : Correlations) : List (String × Json) :=
  if x.correlations.isEmpty then []
  else [(correlationsKey, .array (x.correlations.map Correlation.toJson))]

def explanationFields (x : Explanation) : List (String × Json) :=
  (if x.explanation.isEmpty then [] else [(explanationKey, .string x.explanation)]) ++
  (if x.anomalies.isEmpty then []
    else [(anomaliesKey, .array (x.anomalies.map Anomaly.toJson))])

/-- An answer of the kind that a feedback channel asks for. -/
inductive FeedbackAnswer where
  | explanation (x : Explanation)
  | recommendations (x : Recommendations)
  | correlations (x : Correlations)

def feedbackFields : FeedbackAnswer → List (String × Json)
  | .explanation x => explanationFields x
  | .recommendations x => recommendationFields x
  | .correlations x => correlationFields x

/-- Annotations together with the time at which they were made; none if there is nothing to add. -/
def stamped? (fields : List (String × Json)) (now : Timestamp) : Option (Dict Json) :=
  if fields.isEmpty then none
  else some ((Dict.ofList fields).insert enrichedAtKey (.string now.offsetText))

end MetricAlerts.Enrichment

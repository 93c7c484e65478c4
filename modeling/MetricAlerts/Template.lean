import MetricAlerts.Alert
import MetricAlerts.Channel

/-! Templates: text with placeholders, names in doubled braces, for the fields of an alert. A
template is taken apart once, so what is put in place of a placeholder is never read as one. -/

namespace MetricAlerts

namespace Template

/-- The text before the first doubled `c` and the text after it. -/
def breakAt? (c : Char) : List Char → Option (List Char × List Char)
  | [] => none
  | first :: rest =>
    match rest with
    | second :: after =>
      if first = c ∧ second = c then some ([], after)
      else (breakAt? c rest).map fun parts => (first :: parts.1, parts.2)
    | [] => none

theorem length_of_breakAt? {c : Char} {cs before after : List Char}
    (h : breakAt? c cs = some (before, after)) : after.length + 2 ≤ cs.length := by
  induction cs generalizing before with
  | nil => simp [breakAt?] at h
  | cons first rest ih =>
    cases rest with
    | nil => simp [breakAt?] at h
    | cons second tail =>
      rw [breakAt?] at h
      split at h
      · simp only [Option.some.injEq, Prod.mk.injEq] at h
        obtain ⟨_, rfl⟩ := h
        simp
      · simp only [Option.map_eq_some_iff] at h
        obtain ⟨parts, found, same⟩ := h
        simp only [Prod.mk.injEq] at same
        have := @ih parts.1 (by rw [found, ← same.2])
        simp only [List.length_cons] at this ⊢
        omega

/-- A part of a template: text to be kept, or the name in a placeholder, as it is written. -/
inductive Piece where
  | text (cs : List Char)
  | placeholder (name : List Char)
  deriving DecidableEq, Repr

/-- The parts of a template. An opening without a closing after it is text. -/
def pieces (cs : List Char) : List Piece :=
  match _h : breakAt? '{' cs with
  | none => [.text cs]
  | some (before, inside) =>
    match _h' : breakAt? '}' inside with
    | none => [.text cs]
    | some (name, after) => .text before :: .placeholder name :: pieces after
termination_by cs.length
decreasing_by
  have := length_of_breakAt? _h
  have := length_of_breakAt? _h'
  omega

/-- What follows a prefix. -/
def afterPrefix? : List Char → List Char → Option (List Char)
  | [], cs => some cs
  | p :: ps, c :: cs => if p = c then afterPrefix? ps cs else none
  | _ :: _, [] => none

/-- The text of an annotation: a string as it is, anything else as JSON. -/
def annotationText : Json → String
  | .string s => s
  | v => v.compact

/-- The value of a label or annotation by its full name. -/
def entryText (name : List Char) (alert : Alert) : String :=
  match afterPrefix? "labels.".toList name with
  | some key => (alert.labels.get? (String.ofList key)).getD ""
  | none =>
    match afterPrefix? "annotations.".toList name with
    | some key => ((alert.annotations.get? (String.ofList key)).map annotationText).getD ""
    | none => ""

/-- The value that a name stands for, empty where it stands for none. -/
def valueOf (name : List Char) (alert : Alert) : String :=
  match String.ofList name with
  | "id" => alert.id
  | "ruleId" => alert.ruleId
  | "ruleName" => alert.ruleName
  | "severity" => alert.severity.name
  | "status" => alert.status.name
  | "source" => alert.source
  | "value" => (alert.value.map Alert.valueText).getD "n/a"
  | "summary" => alert.summary
  | "startsAt" => alert.startsAt.offsetText
  | "explanation" => alert.explanation.getD ""
  | _ => entryText name alert

def renderPiece (alert : Alert) : Piece → List Char
  | .text cs => cs
  | .placeholder name => (valueOf (Text.trim name) alert).toList

/-- The text of a template for an alert. -/
def render (template : String) (alert : Alert) : String :=
  String.ofList ((pieces template.toList).flatMap (renderPiece alert))

end Template

/-- Subject and body of a message about an alert. -/
structure Message where
  subject : String
  body : String
  deriving DecidableEq, Repr

namespace Message

def defaultSubject : String :=
  "[\x7b\x7bseverity\x7d\x7d] \x7b\x7bruleName\x7d\x7d is \x7b\x7bstatus\x7d\x7d"

def defaultBody : String :=
  "Alert: \x7b\x7bruleName\x7d\x7d\nSeverity: \x7b\x7bseverity\x7d\x7d\n" ++
  "Status: \x7b\x7bstatus\x7d\x7d\nSource: \x7b\x7bsource\x7d\x7d\n" ++
  "Value: \x7b\x7bvalue\x7d\x7d\nStarted: \x7b\x7bstartsAt\x7d\x7d\n\n" ++
  "\x7b\x7bsummary\x7d\x7d"

/-- The message about an alert by the given templates or else the default ones. -/
def render (templates : Option MessageTemplates) (alert : Alert) : Message where
  subject := Template.render ((templates.bind (·.subject)).getD defaultSubject) alert
  body := Template.render ((templates.bind (·.body)).getD defaultBody) alert

end Message

end MetricAlerts

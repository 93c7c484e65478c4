import MetricAlerts.Notification

/-! The network as far as the engine makes use of it: JSON values posted to services and mails. -/

namespace MetricAlerts

/-- A JSON value on its way to a service, with a key to show there, if any. -/
structure Post where
  url : String
  key : Option String
  body : Json

/-- What comes of a post. -/
inductive PostOutcome where
  | unreachable
  | timeout
  | response (status : Nat) (body : String)

structure Mail where
  server : MailServer
  sender : String
  recipient : String
  message : Message

/-- A network by what comes of posts, and which mails it takes. -/
structure Network where
  post : Post → PostOutcome
  mail : Mail → Bool

namespace Network

/-- The network in which nothing can be reached. -/
def none : Network := ⟨fun _ => .unreachable, fun _ => false⟩

/-- Whether a status reports success. -/
def isSuccess (status : Nat) : Bool := 200 ≤ status && status < 300

end Network

end MetricAlerts

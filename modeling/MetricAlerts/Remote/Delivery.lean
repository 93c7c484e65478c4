import MetricAlerts.Remote.Mailbox
import MetricAlerts.Remote.Network

/-! Delivery of notifications over a network. -/

namespace MetricAlerts.Network

/-- The address of the PagerDuty service. -/
def pagerDutyUrl : String := "https://events.pagerduty.com/v2/enqueue"

/-- The failure of a post to a service, if it failed. -/
def postTo (network : Network) (service : Service) (url : String) (payload : Json) :
    Except ChannelError Unit :=
  match network.post ⟨url, .none, payload⟩ with
  | .response status _ => if isSuccess status then .ok () else .error (.status service status)
  | _ => .error .http

/-- One mail after another. The first failure is the end of it. -/
def sendMails (network : Network) (server : MailServer) (sender : String) (message : Message) :
    List String → Except ChannelError Unit
  | [] => .ok ()
  | recipient :: recipients =>
    if !Mailbox.isValid recipient then .error (.invalidAddress recipient)
    else if network.mail ⟨server, sender, recipient, message⟩ then
      sendMails network server sender message recipients
    else .error .email

/-- Hands a notification to the service that it is for. -/
def deliver (network : Network) : Notification → Except ChannelError Unit
  | .slack _ webhookUrl payload => network.postTo .slack webhookUrl payload
  | .pagerDuty _ payload => network.postTo .pagerDuty pagerDutyUrl payload
  | .email _ server sender recipients message =>
    if Mailbox.isValid sender then network.sendMails server sender message recipients
    else .error (.invalidAddress sender)

end MetricAlerts.Network

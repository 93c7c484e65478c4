import MetricAlerts.Definitions.Builtin
import MetricAlerts.Definitions.Registry
import MetricAlerts.Json.Parser

/-! The rules and channels in use, and how they are loaded from files. -/

namespace MetricAlerts

structure Definitions where
  rules : List Rule
  channels : List Channel

namespace Definitions

/-- Definitions whose rule ids are distinct, and whose channel ids are. -/
def ofLists (rules : List Rule) (channels : List Channel) : Except DefinitionError Definitions := do
  let rules ← Registry.ofList rules
  let channels ← Registry.ofList channels
  return { rules, channels }

def builtin : Definitions := ⟨builtinRules, builtinChannels⟩

/-- The entries that can be read in the array under `key`, provided that there is one and their
ids are distinct. -/
def section? {α : Type} [Identified α] (read : Document → Option α) (key : String)
    (document : Json) : Option (List α) :=
  match document.get? key with
  | some (.array entries) =>
    (Registry.ofList (entries.filterMap fun entry => read (Document.ofJson entry))).toOption
  | _ => none

/-- What a file holds: nothing where there is no such file, else its bytes. -/
abbrev File := Option ByteArray

/-- The JSON document of a file in UTF-8. -/
def document? (file : File) : Option Json :=
  (file.bind fun bytes => String.fromUTF8? bytes).bind Json.parse?

/-- The section of a file, or else the built-in definitions. -/
def sectionOr {α : Type} [Identified α] (read : Document → Option α) (key : String)
    (builtin : List α) (file : File) : List α :=
  ((document? file).bind (section? read key)).getD builtin

/-- The definitions of two files. Entries that cannot be read are left out, and a file without
usable definitions stands for the built-in ones. -/
def load (rulesFile channelsFile : File) : Except DefinitionError Definitions :=
  ofLists (sectionOr Rule.read? "rules" builtinRules rulesFile)
    (sectionOr Channel.read? "channels" builtinChannels channelsFile)

/-- The enabled rules that look at a source. -/
def rulesFor (d : Definitions) (source : String) : List Rule :=
  d.rules.filter fun r => r.appliesTo source

def enabledChannels (d : Definitions) : List Channel := d.channels.filter (·.enabled)

end Definitions

end MetricAlerts

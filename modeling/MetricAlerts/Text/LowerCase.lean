import MetricAlerts.Text.CaseTable
import MetricAlerts.Text.CharClass

/-! Text in lower case, by the full mapping of Unicode. -/

namespace MetricAlerts.Text

/-- The lower case of a character on its own. -/
def lowerChars (c : Char) : List Char :=
  if c.toNat < 128 then [c.toLower]
  else if c.toNat = 0x130 then ['i', Char.ofNat 0x307]
  else
    let run := lowerRuns.find? fun (first, last, step, _) =>
      first ≤ c.toNat && c.toNat ≤ last && (c.toNat - first) % step == 0
    match run with
    | some (_, _, _, way) => [Char.ofNat ((c.toNat : Int) + way).toNat]
    | none => [c]

/-- Whether a letter comes next, past characters that do not count for case. -/
def letterAhead (cs : List Char) : Bool :=
  match cs.dropWhile (inRanges caseIgnorableRanges) with
  | c :: _ => inRanges casedRanges c
  | [] => false

/-- The lower case of `cs`, where `before` are the characters in front of it in reverse. A capital
sigma at the end of a word becomes a final sigma. -/
def lowerAfter (before : List Char) : List Char → List Char
  | [] => []
  | c :: cs =>
    let lower :=
      if c = 'Σ' then (if letterAhead before && !letterAhead cs then ['ς'] else ['σ'])
      else lowerChars c
    lower ++ lowerAfter (c :: before) cs

def lowerCase (cs : List Char) : List Char := lowerAfter [] cs

/-- Whether `part` stands somewhere in a text. -/
def contains (part : List Char) : List Char → Bool
  | [] => part.isEmpty
  | c :: cs => part.isPrefixOf (c :: cs) || contains part cs

end MetricAlerts.Text

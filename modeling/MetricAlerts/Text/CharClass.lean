import MetricAlerts.Text.InvisibleTable
import MetricAlerts.Text.LetterTable

/-! Classes of characters that are given by ranges of numbers. -/

namespace MetricAlerts.Text

def inRanges (ranges : List (Nat × Nat)) (c : Char) : Bool :=
  ranges.any fun r => r.1 ≤ c.toNat && c.toNat ≤ r.2

/-- Whether a character is a letter or a digit of any script. -/
def isLetterOrDigit (c : Char) : Bool :=
  c.isAlphanum || (128 ≤ c.toNat && inRanges letterRanges c)

/-- Whether nothing is to be seen of a character: a control character, or one that is blind. -/
def isBlind (c : Char) : Bool :=
  c.toNat < 32 || c.toNat == 127 || (128 ≤ c.toNat && inRanges blindRanges c)

/-- Whether a character can be seen only together with the one before it. -/
def isJoiningMark (c : Char) : Bool := 128 ≤ c.toNat && inRanges joiningMarkRanges c

end MetricAlerts.Text

import MetricAlerts.Text.CharClass

/-! Text in double quotes in which every character can be seen. -/

namespace MetricAlerts.Text

/-- How a character is written between quotes: an invisible one by its number in hexadecimal digits,
except for those with an escape of their own. -/
def visibleChars (c : Char) : List Char :=
  if c = '"' then ['\\', '"']
  else if c = '\\' then ['\\', '\\']
  else if c = '\n' then ['\\', 'n']
  else if c = '\r' then ['\\', 'r']
  else if c = '\t' then ['\\', 't']
  else if c.toNat = 0 then ['\\', '0']
  else if isBlind c || isJoiningMark c then '\\' :: 'u' :: '{' :: Nat.toDigits 16 c.toNat ++ ['}']
  else [c]

def quoted (s : String) : List Char := '"' :: s.toList.flatMap visibleChars ++ ['"']

/-- A list of texts in brackets. -/
def quotedList (l : List String) : String :=
  String.ofList ('[' :: [',', ' '].intercalate (l.map quoted) ++ [']'])

end MetricAlerts.Text

import MetricAlerts.Text.LowerCase
import MetricAlerts.Text.Pieces
import MetricAlerts.Text.Punycode

/-! Domain names, whose labels stand between dots. Names beyond ASCII have a form in ASCII, which is
what counts where the name itself is not well formed. -/

namespace MetricAlerts.Domain

def byteLength (cs : List Char) : Nat := (String.ofList cs).utf8ByteSize

/-- The greatest number of bytes of a name. -/
def nameLimit : Nat := 254

/-- The greatest number of bytes of a label. -/
def labelLimit : Nat := 63

/-- The characters of words: letters and digits of any script, and some signs. -/
def isWordChar (c : Char) : Bool :=
  Text.isLetterOrDigit c || "!#$%&'*+-/=?^_`|~\x7b\x7d".toList.contains c

/-- A label starts and ends with a letter or a digit. -/
def isLabel (cs : List Char) : Bool :=
  byteLength cs ≤ labelLimit && cs.head?.any Text.isLetterOrDigit &&
    cs.getLast?.any Text.isLetterOrDigit && cs.all isWordChar

def isName (cs : List Char) : Bool :=
  byteLength cs ≤ nameLimit && (Text.pieces '.' cs).all isLabel

/-! The form in ASCII. -/

/-- The ranges of characters that leave no trace. -/
def ignoredRanges : List (Nat × Nat) := [
  (0xAD, 0xAD), (0x34F, 0x34F), (0x180B, 0x180D), (0x180F, 0x180F), (0x200B, 0x200B),
  (0x2060, 0x2060), (0x2064, 0x2064), (0xFE00, 0xFE0F), (0xFEFF, 0xFEFF), (0x1BCA0, 0x1BCA3),
  (0xE0100, 0xE01EF)]

/-- The ranges of characters that can be seen and yet stand in no name: most of them are written out
with blanks, brackets, commas or dots. -/
def refusedRanges : List (Nat × Nat) := [
  (0xA8, 0xA8), (0xAF, 0xAF), (0xB4, 0xB4), (0xB8, 0xB8), (0x2D8, 0x2DD), (0x37A, 0x37A),
  (0x37E, 0x37E), (0x384, 0x385), (0x1FBD, 0x1FBD), (0x1FBF, 0x1FC1), (0x1FCD, 0x1FCF),
  (0x1FDD, 0x1FDF), (0x1FED, 0x1FEE), (0x1FFD, 0x1FFE), (0x2017, 0x2017), (0x2024, 0x2026),
  (0x203E, 0x203E), (0x207D, 0x207E), (0x208D, 0x208E), (0x2474, 0x249B), (0x249C, 0x24B5),
  (0x2A74, 0x2A74), (0x2FF0, 0x2FFF), (0x309B, 0x309C), (0x31EF, 0x31EF), (0x3200, 0x321E),
  (0x3220, 0x3243), (0x33C2, 0x33C2), (0x33C7, 0x33C7), (0x33D8, 0x33D8), (0xFC5E, 0xFC63),
  (0xFDFA, 0xFDFB), (0xFE10, 0xFE10), (0xFE12, 0xFE14), (0xFE19, 0xFE19), (0xFE30, 0xFE30),
  (0xFE35, 0xFE36), (0xFE47, 0xFE4C), (0xFE50, 0xFE50), (0xFE52, 0xFE52), (0xFE54, 0xFE55),
  (0xFE59, 0xFE5A), (0xFE64, 0xFE65), (0xFE68, 0xFE68), (0xFE6B, 0xFE6B), (0xFE70, 0xFE70),
  (0xFE72, 0xFE72), (0xFE74, 0xFE74), (0xFE76, 0xFE76), (0xFE78, 0xFE78), (0xFE7A, 0xFE7A),
  (0xFE7C, 0xFE7C), (0xFE7E, 0xFE7E), (0xFFE3, 0xFFE3), (0xFFFC, 0xFFFD), (0x1F100, 0x1F10A),
  (0x1F110, 0x1F129)]

/-- Signs that are written out in ASCII, beside those of full width. -/
def writtenOut : List (Nat × String) := [
  (0x1FEF, "`"), (0x203C, "!!"), (0x2047, "??"), (0x2048, "?!"), (0x2049, "!?"), (0x207A, "+"),
  (0x207C, "="), (0x208A, "+"), (0x208C, "="), (0x20A8, "rs"), (0x2100, "a/c"), (0x2101, "a/s"),
  (0x2105, "c/o"), (0x2106, "c/u"), (0x2116, "no"), (0x2120, "sm"), (0x2121, "tel"), (0x2122, "tm"),
  (0x213B, "fax"), (0x2A75, "=="), (0x2A76, "==="), (0xFB29, "+"), (0xFE15, "!"), (0xFE16, "?"),
  (0xFE33, "_"), (0xFE34, "_"), (0xFE37, "\x7b"), (0xFE38, "\x7d"), (0xFE4D, "_"), (0xFE4E, "_"),
  (0xFE4F, "_"), (0xFE56, "?"), (0xFE57, "!"), (0xFE5B, "\x7b"), (0xFE5C, "\x7d"), (0xFE5F, "#"),
  (0xFE60, "&"), (0xFE61, "*"), (0xFE62, "+"), (0xFE63, "-"), (0xFE66, "="), (0xFE69, "$"),
  (0xFE6A, "%")]

/-- The dots of East Asian scripts. -/
def isWideDot (c : Char) : Bool := c.toNat = 0x3002 || c.toNat = 0xFF0E || c.toNat = 0xFF61

/-- The characters that join others or keep them apart. -/
def isJoiner (c : Char) : Bool := c.toNat = 0x200C || c.toNat = 0x200D

/-- What a character becomes; nothing where it can be in no name. -/
def fold? (c : Char) : Option (List Char) :=
  let n := c.toNat
  if n < 128 then some [c.toLower]
  else if isWideDot c then some ['.']
  else if Text.inRanges ignoredRanges c then some []
  else if 0xFF01 ≤ n && n ≤ 0xFF5E then some [(Char.ofNat (n - 0xFEE0)).toLower]
  else
    match writtenOut.lookup n with
    | some text => some text.toList
    | none =>
      if isJoiner c then some [c]
      else if Text.isBlind c || Text.inRanges refusedRanges c then none
      else some (Text.lowerChars c)

/-- What the ASCII form of a label starts with, unless the label itself is ASCII. -/
def codeMark : List Char := ['x', 'n', '-', '-']

def encodeLabel (cs : List Char) : List Char :=
  if cs.all fun c => c.toNat < 128 then cs else codeMark ++ Text.Punycode.encode cs

/-- The ASCII form of a label whose characters have been folded. A label may be given in this form,
and then it must stand for one whose characters are as they should be. -/
def asciiLabel? (cs : List Char) : Option (List Char) :=
  if codeMark.isPrefixOf cs then do
    let label ← Text.Punycode.decode? (cs.drop codeMark.length)
    if label.all (fun c => fold? c == some [c]) && !label.head?.any Text.isJoiningMark then
      return encodeLabel label
    else none
  else if cs.head?.any Text.isJoiningMark then none
  else some (encodeLabel cs)

def asciiName? (cs : List Char) : Option (List Char) := do
  let folded ← cs.mapM fold?
  let labels ← (Text.pieces '.' folded.flatten).mapM asciiLabel?
  return ['.'].intercalate labels

/-- Whether a text is a domain name, itself or in its ASCII form. -/
def isValid (cs : List Char) : Bool := isName cs || (asciiName? cs).any isName

end MetricAlerts.Domain

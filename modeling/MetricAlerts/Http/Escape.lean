import MetricAlerts.Number.Numeral
import MetricAlerts.Text.Pieces

/-! Escapes in addresses: a percent sign and two hexadecimal digits stand for a byte. -/

namespace MetricAlerts.Http

/-- The bytes of a text. A percent sign without two hexadecimal digits after it stands for
itself. -/
def unescapedBytes : List Char → List UInt8
  | [] => []
  | '%' :: a :: b :: rest =>
    match Number.hexValue? a, Number.hexValue? b with
    | some high, some low => (16 * high + low).toUInt8 :: unescapedBytes rest
    | _, _ => '%'.toNat.toUInt8 :: unescapedBytes (a :: b :: rest)
  | c :: rest => (String.singleton c).toUTF8.toList ++ unescapedBytes rest

/-- A text without its escapes, where its bytes are text. -/
def unescaped? (cs : List Char) : Option String :=
  String.fromUTF8? ⟨(unescapedBytes cs).toArray⟩

/-- A text of a query without its escapes. A plus sign stands for a space. -/
def unescapedTerm? (cs : List Char) : Option String :=
  unescaped? (cs.map fun c => if c = '+' then ' ' else c)

/-- The names and values of a query. A name or value whose bytes are no text is missing. -/
def terms (query : List Char) : List (Option String × Option String) :=
  ((Text.pieces '&' query).filter (!·.isEmpty)).map fun piece =>
    let name := piece.takeWhile (· != '=')
    (unescapedTerm? name, unescapedTerm? (piece.drop (name.length + 1)))

end MetricAlerts.Http

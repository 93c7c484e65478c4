/-! Tokens, of which methods, header names and media types are made. -/

namespace MetricAlerts.Http

def isTokenChar (c : Char) : Bool :=
  c.isAlphanum || "!#$%&'*+-.^_`|~".toList.contains c

def isToken (cs : List Char) : Bool := !cs.isEmpty && cs.all isTokenChar

end MetricAlerts.Http

import MetricAlerts.Text.Pieces

/-! Targets of requests: a path with a query, alone or behind a scheme and an authority; an
authority alone; or an asterisk. -/

namespace MetricAlerts.Http

/-- What a request asks for. The path is empty where the target has none. -/
structure Target where
  path : List Char
  query : List Char
  deriving DecidableEq, Repr

namespace Target

def isVisible (c : Char) : Bool := 33 ≤ c.toNat && c.toNat != 127

def isPathChar (c : Char) : Bool := isVisible c && !"#<>?`".toList.contains c

def isQueryChar (c : Char) : Bool := isVisible c && !"\"#<>".toList.contains c

def isSchemeChar (c : Char) : Bool := c.isAlphanum || "+-.".toList.contains c

def isAuthorityChar (c : Char) : Bool :=
  c.isAlphanum || "!$%&'()*+,-.:;=@[]_~".toList.contains c

/-- A path with a query, without the fragment. -/
def ofPath? (cs : List Char) : Option Target :=
  let address := cs.takeWhile (· != '#')
  let path := address.takeWhile (· != '?')
  let query := address.drop (path.length + 1)
  if path.all isPathChar && query.all isQueryChar then some ⟨path, query⟩ else none

/-- The most colons in a part of an authority. -/
def colonLimit : Nat := 8

/-- Whether a text names a host, maybe with a user before it and a port after it. Parts end with an
at sign or a closing bracket. Percent signs are for users and hosts in brackets only, and one colon
may follow the host. -/
def isAuthority (cs : List Char) : Bool :=
  let parts := Text.pieces '@' (cs.map fun c => if c = ']' then '@' else c)
  let brackets := cs.filter fun c => c = '[' || c = ']'
  cs.all isAuthorityChar && cs.getLast? != some '@' && (brackets == [] || brackets == ['[', ']']) &&
    (parts.all fun part =>
      part.count ':' ≤ colonLimit && !(part.dropWhile (· != '%')).contains '[') &&
    (parts.getLast?.all fun host => host.count ':' ≤ 1 && !host.contains '%')

/-- The greatest number of characters of a scheme. -/
def schemeLimit : Nat := 64

/-- The greatest number of bytes of a target. -/
def byteLimit : Nat := 65534

def parse? (text : String) : Option Target :=
  if byteLimit < text.utf8ByteSize then none
  else
    match text.toList with
    | [] => none
    | ['*'] => some ⟨['*'], []⟩
    | '/' :: rest => ofPath? ('/' :: rest)
    | cs =>
      let scheme := cs.takeWhile isSchemeChar
      match cs.drop scheme.length with
      | ':' :: '/' :: '/' :: rest =>
        let authority := rest.takeWhile fun c => c != '/' && c != '?' && c != '#'
        if scheme.length ≤ schemeLimit && !authority.isEmpty && isAuthority authority then
          ofPath? (rest.drop authority.length)
        else none
      | _ => if isAuthority cs then some ⟨[], []⟩ else none

example : parse? "ftp://user:pw@[::1]:8/health?x#y" = some ⟨"/health".toList, ['x']⟩ := by
  decide +kernel

example : parse? "http://host:80:90/health" = none := by decide +kernel

end Target

end MetricAlerts.Http

import FaceDecode.Text.Percent

namespace FaceDecode

structure Locator where
  scheme : String
  authority : Option String
  path : String
  query : Option String
  fragment : Option String
deriving DecidableEq, Repr

namespace Locator

/-- The locator in one piece. Where there is no authority, a path that starts with two slashes is
kept from being read as one. -/
def text (l : Locator) : String :=
  let part (mark : String) (p : Option String) : String := (p.map (mark ++ ·)).getD ""
  let path := if l.authority.isNone && l.path.startsWith "//" then "/." ++ l.path else l.path
  l.scheme ++ ":" ++ part "//" l.authority ++ path ++ part "?" l.query ++ part "#" l.fragment

/-- The path with its encoding undone, unless it then is no text. -/
def decodedPath (l : Locator) : String :=
  (Utf8.decode? (Percent.decode l.path.toList)).getD l.path

def decodeField (cs : List Char) : String :=
  Utf8.decodeLossy (Percent.decode (cs.map fun c ↦ if c = '+' then ' ' else c))

/-- One piece of the query: name and value around the first equals sign. -/
def pair (piece : String) : String × String :=
  let (name, value) := piece.toList.span (· ≠ '=')
  (decodeField name, decodeField (value.drop 1))

def pairs (l : Locator) : List (String × String) :=
  (((l.query.getD "").splitOn "&").filter (· ≠ "")).map pair

end Locator

end FaceDecode

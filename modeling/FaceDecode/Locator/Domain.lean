import FaceDecode.Text.Percent
import FaceDecode.Text.Punycode

namespace FaceDecode.Domain

/-- What no name may hold: controls, blanks and the signs that have a meaning in a locator. -/
def refuses (c : Char) : Bool :=
  c ≤ ' ' || c == '\x7f' || "%#/:<>?@[\\]^|".toList.contains c

def mark : List Char := "xn--".toList

/-- Whether a marked label stands for something that needs the mark. -/
def isMarked (code : List Char) : Bool :=
  match Punycode.decode? code with
  | some cs =>
    !cs.all Punycode.isBasic && cs.all (fun c ↦ c < '\x80' || '\xa0' ≤ c) &&
      Punycode.encode cs == code
  | none => false

def label? (cs : List Char) : Option (List Char) :=
  if cs.all Punycode.isBasic then
    if mark.isPrefixOf cs && !isMarked (cs.drop mark.length) then none else some cs
  else some (mark ++ Punycode.encode cs)

/-- The name as it is kept, if its encoding can be undone and it is a name. -/
def name? (cs : List Char) : Option String :=
  match Utf8.decode? (Percent.decode cs) with
  | none => none
  | some text =>
    let small := text.map Char.toLower
    if small.toList.any refuses then none
    else ((small.splitOn ".").mapM fun label ↦ label? label.toList).map fun labels ↦
      ".".intercalate (labels.map String.ofList)

end FaceDecode.Domain

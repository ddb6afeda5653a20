import FaceDecode.Locator.Address
import FaceDecode.Locator.Basic
import FaceDecode.Locator.Domain

namespace FaceDecode

inductive LocatorError where
  | noScheme
  | emptyHost
  | badPort
  | badGroups
  | badBytes
  | badHost
  | badDomain
deriving DecidableEq, Repr

def LocatorError.message : LocatorError → String
  | .noScheme => "relative URL without a base"
  | .emptyHost => "empty host"
  | .badPort => "invalid port number"
  | .badGroups => "invalid IPv6 address"
  | .badBytes => "invalid IPv4 address"
  | .badHost => "invalid domain character"
  | .badDomain => "invalid international domain name"

namespace Locator

def cut {α : Type} (isMark : α → Bool) (xs : List α) : List α × Option (List α) :=
  match xs.span (!isMark ·) with
  | (before, []) => (before, none)
  | (before, _ :: after) => (before, some after)

inductive SchemeKind where
  | plain
  | hosted
  | file
deriving DecidableEq, Repr

def SchemeKind.ofScheme (scheme : String) : SchemeKind :=
  if scheme = "file" then .file
  else if ["http", "https", "ws", "wss", "ftp"].contains scheme then .hosted
  else .plain

def isBlank (c : Char) : Bool := c ≤ ' '

def isBreak (c : Char) : Bool := c == '\t' || c == '\n' || c == '\r'

def clean (text : String) : List Char :=
  (((text.toList.dropWhile isBlank).reverse.dropWhile isBlank).reverse).filter (!isBreak ·)

def isPrinted (c : Char) : Bool := ' ' ≤ c && c ≤ '~'

def opaqueKeeps (c : Char) : Bool := isPrinted c

def queryKeeps (kind : SchemeKind) (c : Char) : Bool :=
  isPrinted c && !" \"#<>".toList.contains c && (kind = .plain || c ≠ '\'')

def fragmentKeeps (c : Char) : Bool := isPrinted c && !" \"<>\x60".toList.contains c

def pathKeeps (c : Char) : Bool := isPrinted c && !" \"#<>?\x60\x7b\x7d".toList.contains c

def userKeeps (c : Char) : Bool :=
  isPrinted c && !" \"#<>?\x60\x7b\x7d/:;=@[\\]^|".toList.contains c

def hostRefuses (c : Char) : Bool := "\x00 #/:<>?@[\\]^|".toList.contains c

def encoded (keeps : Char → Bool) (cs : List Char) : String := .ofList (Percent.encode keeps cs)

def isSchemeChar (c : Char) : Bool := c.isAlphanum || c == '+' || c == '-' || c == '.'

def scheme? (cs : List Char) : Option (String × List Char) :=
  match cut (· == ':') cs with
  | (c :: name, some rest) =>
    if c.isAlpha && name.all isSchemeChar then some (.ofList ((c :: name).map Char.toLower), rest)
    else none
  | _ => none

def host (kind : SchemeKind) (cs : List Char) : Except LocatorError String :=
  match cs with
  | '[' :: inner =>
    match (if inner.getLast? = some ']' then Address.groups? (.ofList inner.dropLast) else none) with
    | some groups => .ok ("[" ++ Address.groupsText groups ++ "]")
    | none => .error .badGroups
  | _ =>
    if kind = .plain then
      if cs.any hostRefuses then .error .badHost else .ok (encoded isPrinted cs)
    else
      match Domain.name? cs with
      | none => .error .badDomain
      | some "" => .error .emptyHost
      | some name =>
        if Address.isNumeric name then
          match Address.value? name with
          | some value => .ok (Address.valueText value)
          | none => .error .badBytes
        else .ok name

def spanHost : Bool → List Char → List Char × List Char
  | _, [] => ([], [])
  | inside, c :: cs =>
    if c = ':' ∧ ¬ inside then ([], c :: cs)
    else
      let (host, rest) := spanHost (if c = '[' then true else if c = ']' then false else inside) cs
      (c :: host, rest)

def usualPort? (scheme : String) : Option Nat :=
  match scheme with
  | "http" | "ws" => some 80
  | "https" | "wss" => some 443
  | "ftp" => some 21
  | _ => none

/-- The port with its colon, and what follows it. An empty port counts as none, and the usual one
is left out. Only a backslash may end the digits. -/
def port (scheme : String) : List Char → Except LocatorError (String × List Char)
  | ':' :: cs =>
    let (digits, rest) := cs.span (· ≠ '\\')
    if digits.isEmpty then .ok ("", rest)
    else match Read.natural? digits with
      | some n =>
        if n < UInt16.size then
          .ok (if usualPort? scheme = some n then "" else ":" ++ toString n, rest)
        else .error .badPort
      | none => .error .badPort
  | _ => .ok ("", [])

/-- The user part, up to the last at sign, and what follows it. -/
def spanUser (cs : List Char) : Option (List Char) × List Char :=
  match cut (· == '@') cs.reverse with
  | (_, none) => (none, cs)
  | (after, some before) => (some before.reverse, after.reverse)

def user (cs : List Char) : String :=
  let (name, password) := cut (· == ':') cs
  let name := encoded userKeeps name
  let password := match password with
    | none | some [] => ""
    | some password => ":" ++ encoded userKeeps password
  if name.isEmpty && password.isEmpty then "" else name ++ password ++ "@"

/-- The authority as it is kept, and what follows its port. Where there is a user or a port there
must be a host. -/
def authorityText (scheme : String) (ends : Bool) (cs : List Char) :
    Except LocatorError (String × List Char) := do
  let kind := SchemeKind.ofScheme scheme
  let (before, place) := spanUser cs
  if before = some [] ∧ place = [] ∧ ¬ ends then throw .emptyHost
  let user := user (before.getD [])
  let (name, rest) := spanHost false place
  if kind = .hosted ∧ name = [] then throw .emptyHost
  let name ← host kind name
  if name.isEmpty && (!rest.isEmpty || !user.isEmpty) then throw .emptyHost
  let (port, rest) ← port scheme rest
  return (user ++ name ++ port, rest)

def dots (segment : String) : String :=
  (String.ofList (segment.toList.map Char.toLower)).replace "%2e" "."

/-- Whether a segment names a drive: a letter, and a colon or a bar. -/
def isDrive (segment : String) : Bool :=
  match segment.toList with
  | [letter, mark] => letter.isAlpha && (mark == ':' || mark == '|')
  | _ => false

/-- Goes up by one segment, but not above a drive; the last segment comes first. -/
def goUp : List String → List String
  | [] => []
  | last :: before => if isDrive last then last :: before else before

/-- Resolves dot segments; `kept` holds the segments so far, the last one first. A dot segment at
the end leaves an empty one. -/
def resolve (kept : List String) : List String → List String
  | [] => kept.reverse
  | segment :: rest =>
    let kept := match dots segment with
      | "." => kept
      | ".." => goUp kept
      | _ => segment :: kept
    match rest with
    | [] => (if dots segment = "." ∨ dots segment = ".." then "" :: kept else kept).reverse
    | _ :: _ => resolve kept rest

def segments (cs : List Char) : List String := resolve [] ((encoded pathKeeps cs).splitOn "/")

def absolutePath (cs : List Char) : String := "/" ++ "/".intercalate (segments cs)

def pathText (kind : SchemeKind) (afterAuthority : Bool) : List Char → String
  | '/' :: cs => absolutePath cs
  | [] => if kind = .plain then "" else "/"
  | cs => if kind = .plain ∧ ¬ afterAuthority then encoded opaqueKeeps cs else absolutePath cs

def driveText (segment : String) : String := .ofList (segment.toList.take 1 ++ [':'])

def filePath (cs : List Char) : String × Bool :=
  match (segments cs).dropWhile String.isEmpty with
  | [] => ("/", false)
  | first :: rest =>
    let first' := if isDrive first then driveText first else first
    ("/" ++ "/".intercalate (first' :: rest), isDrive first)

/-- The host and the path of a file. Before a drive there is no host, and the own host is none. -/
def filePlace : List Char → Except LocatorError (String × String)
  | '/' :: '/' :: cs => do
    let (name, path) := cs.span (· ≠ '/')
    if isDrive (.ofList name) then return ("", (filePath cs).1)
    let name ← if name.isEmpty then .ok "" else host .file name
    let (path, hasDrive) := filePath path
    return (if hasDrive || name == "localhost" then "" else name, path)
  | cs => .ok ("", (filePath cs).1)

def place (scheme : String) (ends : Bool) (cs : List Char) :
    Except LocatorError (Option String × String) :=
  let kind := SchemeKind.ofScheme scheme
  let afterSlashes (cs : List Char) := do
    let (authority, path) := cs.span (· ≠ '/')
    let (authority, rest) ← authorityText scheme (ends && path.isEmpty) authority
    return (some authority,
      if rest.isEmpty then pathText kind true path else absolutePath (rest ++ path))
  let slashed := cs.map fun c ↦ if c = '\\' then '/' else c
  match kind, cs with
  | .hosted, _ => afterSlashes (slashed.dropWhile (· == '/'))
  | .file, _ => (filePlace slashed).map fun (host, path) ↦ (some host, path)
  | .plain, '/' :: '/' :: cs => afterSlashes cs
  | .plain, cs => .ok (none, pathText kind false cs)

def read (text : String) : Except LocatorError Locator :=
  match scheme? (clean text) with
  | none => .error .noScheme
  | some (scheme, rest) => do
    let (rest, fragment) := cut (· == '#') rest
    let (rest, query) := cut (· == '?') rest
    let (authority, path) ← place scheme (query.isNone && fragment.isNone) rest
    return {
      scheme, authority, path
      query := query.map (encoded (queryKeeps (.ofScheme scheme)))
      fragment := fragment.map (encoded fragmentKeeps) }

end Locator

end FaceDecode

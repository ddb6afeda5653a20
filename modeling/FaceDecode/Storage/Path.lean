namespace FaceDecode.Path

def join (folder name : String) : String :=
  if folder.isEmpty then name
  else if folder.endsWith "/" then folder ++ name
  else folder ++ "/" ++ name

def isVoid (part : String) : Bool := part == "" || part == "."

def names (path : String) : List String := (path.splitOn "/").filter (!isVoid ·)

/-- The path without its last name and the slashes before it; the rest stays as it is written. -/
def parent? (path : String) : Option String :=
  match (path.splitOn "/").reverse.dropWhile isVoid with
  | [] => none
  | _ :: before =>
    match before.dropWhile isVoid with
    | [] => some (if path.startsWith "/" then "/" else "")
    | parts => some ("/".intercalate parts.reverse)

def maxNameBytes : Nat := 255

def maxBytes : Nat := 4095

/-- What follows the last dot of a name; a dot at the start does not count. -/
def extensionOf? (name : String) : Option String :=
  match (name.splitOn ".").reverse with
  | last :: rest@(_ :: _) => if rest = [""] ∨ name = ".." then none else some last
  | _ => none

def extension? (path : String) : Option String := (names path).getLast?.bind extensionOf?

def hasExtension (path extension : String) : Bool :=
  (extension? path).any fun e ↦ e.map Char.toLower == extension

end FaceDecode.Path

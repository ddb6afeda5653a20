namespace FaceDecode

inductive Json where
  | literal (text : String)
  | text (s : String)
  | list (items : List Json)
  | object (fields : List (String × Json))

namespace Json

def null : Json := .literal "null"

def escape (c : Char) : String :=
  if c = '"' then "\\\"" else if c = '\\' then "\\\\" else c.toString

def quote (s : String) : String := "\"" ++ String.join (s.toList.map escape) ++ "\""

def enclose (first last : String) (items : List String) : String :=
  first ++ ",".intercalate items ++ last

mutual

def compact : Json → String
  | literal t => t
  | text s => quote s
  | list items => enclose "[" "]" (compactItems items)
  | object fields => enclose "\x7b" "\x7d" (compactFields fields)

def compactItems : List Json → List String
  | [] => []
  | j :: rest => j.compact :: compactItems rest

def compactFields : List (String × Json) → List String
  | [] => []
  | (name, j) :: rest => (quote name ++ ":" ++ j.compact) :: compactFields rest

end

def indent (depth : Nat) : String := "\n" ++ String.ofList (List.replicate (2 * depth) ' ')

/-- Items on lines of their own, one step deeper than the marks around them. -/
def encloseLines (depth : Nat) (first last : String) (items : List String) : String :=
  if items.isEmpty then first ++ last
  else first ++ ",".intercalate (items.map (indent (depth + 1) ++ ·)) ++ indent depth ++ last

mutual

def pretty (depth : Nat) : Json → String
  | literal t => t
  | text s => quote s
  | list items => encloseLines depth "[" "]" (prettyItems (depth + 1) items)
  | object fields => encloseLines depth "\x7b" "\x7d" (prettyFields (depth + 1) fields)

def prettyItems (depth : Nat) : List Json → List String
  | [] => []
  | j :: rest => j.pretty depth :: prettyItems depth rest

def prettyFields (depth : Nat) : List (String × Json) → List String
  | [] => []
  | (name, j) :: rest => (quote name ++ ": " ++ j.pretty depth) :: prettyFields depth rest

end

end Json

end FaceDecode

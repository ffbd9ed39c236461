import LayeredScene.Number.Layout

/-! # JSON documents

Values and data sources can be shown as JSON. A document keeps its object members ordered by key,
each key once, and is written without spaces.
-/

namespace LayeredScene

inductive JsonDocument
  | null
  | truth (value : Bool)
  | whole (value : Int)
  | number (value : Float)
  | text (value : String)
  | list (items : List JsonDocument)
  | object (members : List (String × JsonDocument))
deriving Inhabited

def setByKey {α : Type} (key : String) (entry : α) : List (String × α) → List (String × α)
  | [] => [(key, entry)]
  | (first, present) :: rest =>
      if key < first then (key, entry) :: (first, present) :: rest
      else if key = first then (key, entry) :: rest
      else (first, present) :: setByKey key entry rest

def orderedByKey {α : Type} (entries : List (String × α)) : List (String × α) :=
  entries.foldl (fun ordered entry => setByKey entry.1 entry.2 ordered) []

namespace JsonDocument

def ofMembers (members : List (String × JsonDocument)) : JsonDocument :=
  .object (orderedByKey members)

/-- Numbers are positional where the first digit stands between five places after the point and
sixteen before it. Whole numbers show one zero after the point. -/
def numberLayout : NumberLayout where
  lowest := -5
  highest := 15
  wholeEnding := ".0"
  exponentMark := "e"
  positiveSign := "+"

def ofFloat (value : Float) : JsonDocument := if value.isFinite then .number value else .null

def ofFloat32 (value : Float32) : JsonDocument := ofFloat value.toFloat

/-- How a character is written inside a string. Quotes, backslashes and control characters are
escaped, and nothing else. -/
def escaped (c : Char) : String :=
  if c = '"' then "\\\""
  else if c = '\\' then "\\\\"
  else if c = '\n' then "\\n"
  else if c = '\r' then "\\r"
  else if c = '\t' then "\\t"
  else if c = '\x08' then "\\b"
  else if c = '\x0c' then "\\f"
  else if c.toNat < 32 then
    "\\u00" ++ String.ofList [Nat.digitChar (c.toNat / 16), Nat.digitChar (c.toNat % 16)]
  else c.toString

def quoted (value : String) : String :=
  value.toList.foldl (fun text c => text ++ escaped c) "\"" ++ "\""

mutual

def write : JsonDocument → String
  | .null => "null"
  | .truth value => if value then "true" else "false"
  | .whole value => toString value
  | .number value => numberLayout.writeFloat value
  | .text value => quoted value
  | .list items => "[" ++ ",".intercalate (writeItems items) ++ "]"
  | .object members => "\x7b" ++ ",".intercalate (writeMembers members) ++ "\x7d"

def writeItems : List JsonDocument → List String
  | [] => []
  | item :: rest => item.write :: writeItems rest

def writeMembers : List (String × JsonDocument) → List String
  | [] => []
  | (key, value) :: rest => (quoted key ++ ":" ++ value.write) :: writeMembers rest

end

end JsonDocument

end LayeredScene

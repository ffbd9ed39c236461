import LayeredScene.Source.Retained

/-! # Dictionaries as data

A dictionary becomes a container with a member for every entry. Dictionaries inside of it become
containers again; every other value becomes a constant.
-/

namespace LayeredScene.Blueprint

mutual

def ofEntry : Value → Blueprint
  | .dictionary entries => .present (ofEntries entries)
  | value => .ofValue value

def ofEntries : List (String × Value) → List (Token × Blueprint)
  | [] => []
  | (key, value) :: rest => (key, ofEntry value) :: ofEntries rest

end

def ofDictionary (entries : Dictionary) : Blueprint := .present (ofEntries entries)

end LayeredScene.Blueprint

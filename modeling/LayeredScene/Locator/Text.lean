import LayeredScene.Locator.Basic
import LayeredScene.ParseError
import LayeredScene.Text.Pieces

/-! # Locator text

A locator is written as its names with dots between them. Names that hold dots, or no characters,
can be put into a locator but not read back from its text.
-/

namespace LayeredScene.Locator

def toText (locator : Locator) : String := ".".intercalate locator.tokens

instance : ToString Locator := ⟨toText⟩

/-- The names spelled by a text: none by the empty text, else those between the dots, unless one of
them is empty. -/
def ofText (text : List Char) : Option (List Token) :=
  if text.isEmpty then some []
  else
    let names := Text.pieces '.' text
    if names.any List.isEmpty then none else some (names.map String.ofList)

def parse (text : String) : Except ParseError Locator :=
  match ofText text.toList with
  | some tokens => .ok ⟨tokens⟩
  | none => .error (.locator text)

def describe (locator : Locator) : String := "Locator(" ++ locator.toText ++ ")"

end LayeredScene.Locator

import LayeredScene.Locator.Set
import LayeredScene.Locator.Text
import LayeredScene.Text.Appearance

/-! # Locator sets in words

A set is shown as the texts of its members, quoted. Quotes, backslashes and characters that do not
show are escaped, the latter by number where they have no escape of their own.
-/

namespace LayeredScene

def describedChar (c : Char) : String :=
  if c = '"' then "\\\""
  else if c = '\\' then "\\\\"
  else if c = '\n' then "\\n"
  else if c = '\r' then "\\r"
  else if c = '\t' then "\\t"
  else if c = '\x00' then "\\0"
  else if Text.showsAlone c then c.toString
  else "\\u\x7b" ++ String.ofList (Nat.toDigits 16 c.toNat) ++ "\x7d"

def describedText (text : String) : String :=
  text.toList.foldl (fun described c => described ++ describedChar c) "\"" ++ "\""

def LocatorSet.describe (set : LocatorSet) : String :=
  "\x7b" ++ ", ".intercalate (set.members.map fun member => describedText member.toText) ++ "\x7d"

end LayeredScene

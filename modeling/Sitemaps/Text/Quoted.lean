import Sitemaps.Text.Ascii
import Sitemaps.Unicode.Unprintable

/-!
Texts in quotes, with escapes for quotes, control characters and whatever does not show by itself.
-/

namespace Sitemaps.Text

def hexDigits (n : Nat) : String := String.ofList (Nat.toDigits 16 n)

def escaped (quotes : List Char) (c : Char) : String :=
  if c = Char.ofNat 0 then "\\0"
  else if c = '\t' then "\\t"
  else if c = '\r' then "\\r"
  else if c = '\n' then "\\n"
  else if c = '\\' ∨ c ∈ quotes then "\\" ++ String.singleton c
  else if Unicode.isUnprintable c then "\\u\x7b" ++ hexDigits c.toNat ++ "\x7d"
  else String.singleton c

def quotedWith (quotes : List Char) (text : String) : String :=
  "\"" ++ String.join (text.toList.map (escaped quotes)) ++ "\""

def quoted (text : String) : String := quotedWith ['"'] text

/-- Paths show single quotes escaped too. -/
def quotedPath (path : String) : String := quotedWith ['"', '\''] path

end Sitemaps.Text

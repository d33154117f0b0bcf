import Sitemaps.Time.Rfc3339

/-!
The forms in which sitemaps date their pages: the internet date-time, the same without seconds,
local times without an offset, and dates down to a bare year.
-/

namespace Sitemaps.Sitemap

open Time

def dateItems : List Item := [.year, .mark '-', .month, .mark '-', .day]
def minuteItems : List Item := dateItems ++ [.mark 'T', .hour, .mark ':', .minute]
def secondItems : List Item := minuteItems ++ [.mark ':', .second, .fraction]

def zoneSpelledOut (text : List Char) : List Char :=
  if text.getLast? == some 'Z' || text.getLast? == some 'z' then
    text.dropLast ++ ['+', '0', '0', ':', '0', '0']
  else text

def readDate (value : String) : Option Instant :=
  let text := value.toList
  match value.utf8ByteSize with
  | 10 => readPattern dateItems text
  | 7 => readPattern dateItems (text ++ ['-', '0', '1'])
  | 4 =>
    if text.all Char.isDigit then Instant.ofLocal? ⟨digitsValue text, 1, 1⟩ ⟨0, 0, 0, 0⟩ 0 else none
  | _ => none

def parseLastMod (value : String) : Option Instant :=
  let text := value.toList
  readRfc3339 text <|>
  readPattern (minuteItems ++ [.offset]) (zoneSpelledOut text) <|>
  readPattern secondItems text <|>
  readPattern minuteItems text <|>
  readDate value

end Sitemaps.Sitemap

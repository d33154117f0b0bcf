import Sitemaps.Time.Pattern

/-! The internet date-time: every number has its full width, and the offset is never missing. -/

namespace Sitemaps.Time

def expect (c : Char) : List Char → Option (List Char)
  | [] => none
  | first :: rest => if first = c then some rest else none

def zoneOffset? : List Char → Option (Int × List Char)
  | 'Z' :: rest | 'z' :: rest => some (0, rest)
  | text => offset? (expect ':') text

def readRfc3339 (text : List Char) : Option Instant := do
  let (year, text) ← number? 4 4 text
  let text ← expect '-' text
  let (month, text) ← number? 2 2 text
  let text ← expect '-' text
  let (day, text) ← number? 2 2 text
  let text ← match text with
    | c :: rest => if c == 'T' || c == 't' || c == ' ' then some rest else none
    | [] => none
  let (hour, text) ← number? 2 2 text
  let text ← expect ':' text
  let (minute, text) ← number? 2 2 text
  let text ← expect ':' text
  let (second, text) ← number? 2 2 text
  let (nanos, text) ← match text with
    | '.' :: rest => nanos? rest
    | text => some (0, text)
  let (offset, text) ← zoneOffset? text
  if !text.isEmpty then none
  Instant.ofLocal? ⟨year, month, day⟩ ⟨hour, minute, second, nanos⟩ offset

end Sitemaps.Time

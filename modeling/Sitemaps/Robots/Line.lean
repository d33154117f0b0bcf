import Sitemaps.Text.Blank

/-!
The lines of a robots file and the key and value on each. A key ends at a colon; where none stands,
at a blank, provided the line holds just two words.
-/

namespace Sitemaps.Robots

def byteOrderMark : List Nat := [0xEF, 0xBB, 0xBF]

/-- A byte order mark that was read as single bytes, whole or in part, is no part of the text. -/
def withoutMark : List Nat → List Char → List Char
  | b :: mark, c :: rest => if c.toNat % 256 = b then withoutMark mark rest else c :: rest
  | _, text => text

/-- Bytes of a line that are read; the rest of it is passed over. -/
def lineLimit : Nat := 2083 * 8 - 1

def clip (room : Nat) : List Char → List Char
  | [] => []
  | c :: rest => if room = 0 then [] else c :: clip (room - c.utf8Size) rest

def splitLines (line : List Char) : List Char → List (List Char)
  | [] => [line.reverse]
  | c :: rest =>
    if c == '\n' || c == '\r' then line.reverse :: splitLines [] rest
    else splitLines (c :: line) rest

def lines (text : List Char) : List (List Char) :=
  (splitLines [] (withoutMark byteOrderMark text)).map (clip lineLimit)

def isGap (c : Char) : Bool := c == ' ' || c == '\t'

def cutLine (line : List Char) : Option (List Char × List Char) :=
  match line.dropWhile (· != ':') with
  | _ :: value => some (line.takeWhile (· != ':'), value)
  | [] =>
    match line.dropWhile (!isGap ·) with
    | [] => none
    | _ :: value =>
      if (Text.trimChars value).any isGap then none else some (line.takeWhile (!isGap ·), value)

/-- Blanks around the rest of a line are dropped only where a comment was. -/
def withoutComment (line : List Char) : List Char :=
  if line.contains '#' then Text.trimChars (line.takeWhile (· != '#')) else line

def keyAndValue (line : List Char) : Option (List Char × List Char) :=
  (cutLine (withoutComment line)).map fun (key, value) =>
    (Text.trimChars key, Text.trimChars value)

def sitemapKeys : List (List Char) := ["sitemap".toList, "site-map".toList]

/-- Whatever follows the key's name, in any letter case, is passed over. -/
def isSitemapKey (key : List Char) : Bool :=
  sitemapKeys.any fun name => name.isPrefixOf (key.map Char.toLower)

def declared? (line : List Char) : Option (List Char) :=
  match keyAndValue line with
  | some (key, value) => if isSitemapKey key && !value.isEmpty then some value else none
  | none => none

end Sitemaps.Robots

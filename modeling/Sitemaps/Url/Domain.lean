import Sitemaps.Unicode.Canonical
import Sitemaps.Unicode.Direction
import Sitemaps.Unicode.DomainMapping
import Sitemaps.Unicode.Joining
import Sitemaps.Unicode.Mark
import Sitemaps.Url.Punycode

/-!
Internationalized domain names. A name is mapped and composed, cut into labels, checked label by
label, and written in ASCII.
-/

namespace Sitemaps.Url.Domain

def isForbidden (c : Char) : Bool :=
  c.toNat ≤ 0x20 || c.toNat == 0x7F || "#/:<>?@[\\]^|%".toList.contains c

def isAscii (c : Char) : Bool := c.toNat < 0x80

def mapped : List Char → Option (List Char)
  | [] => some []
  | c :: rest =>
    match Unicode.fate c with
    | .stays => (mapped rest).map (c :: ·)
    | .vanishes => mapped rest
    | .becomes text => (mapped rest).map (text ++ ·)
    | .refused => none

def stays (c : Char) : Bool :=
  match Unicode.fate c with
  | .stays => true
  | _ => false

def zeroWidthNonJoiner : Char := Char.ofNat 0x200C
def zeroWidthJoiner : Char := Char.ofNat 0x200D

def isVirama (c : Char) : Bool := Unicode.combiningClass c == 9

/-- Joiners need a virama before them; one that keeps letters apart may also stand between letters
that would join. `before` holds what precedes, the nearest first. -/
def joinersFit (before : List Char) : List Char → Bool
  | [] => true
  | c :: rest =>
    let afterVirama := (before.head?.map isVirama).getD false
    let fits :=
      if c == zeroWidthJoiner then afterVirama
      else if c == zeroWidthNonJoiner then
        afterVirama ||
          (((before.dropWhile Unicode.isTransparent).head?.map Unicode.joinsOnward).getD false &&
            ((rest.dropWhile Unicode.isTransparent).head?.map Unicode.joinsBack).getD false)
      else true
    fits && joinersFit (c :: before) rest

def labelFits (label : List Char) : Bool :=
  !(label.head?.map Unicode.isMark).getD false && joinersFit [] label

def acePrefix : List Char := ['x', 'n', '-', '-']

structure Label where
  text : List Char
  written : List Char

/-- The label that an ASCII form stands for: it must be one that would be written so. -/
def decodedLabel (written : List Char) : Option Label := do
  let text ← Punycode.decode (written.drop acePrefix.length)
  if text.all isAscii then none
  if acePrefix.isPrefixOf text then none
  if !(text.all fun c => stays c && c != '.') then none
  if Unicode.canonical text != text then none
  if labelFits text then some ⟨text, written⟩ else none

def label? (text : List Char) : Option Label :=
  if acePrefix.isPrefixOf text then
    if text.all isAscii then decodedLabel text else none
  else if text.all isAscii then some ⟨text, text⟩
  else if labelFits text then some ⟨text, acePrefix ++ Punycode.encode text⟩
  else none

def cutAtDots (label : List Char) : List Char → List (List Char)
  | [] => [label.reverse]
  | c :: rest =>
    if c == '.' then label.reverse :: cutAtDots [] rest else cutAtDots (c :: label) rest

def isRightToLeft (c : Char) : Bool :=
  let d := Unicode.direction c
  d == .rightToLeft || d == .arabicNumber

/-- The rule for labels of a name with right-to-left text: a label has one direction, keeps to the
classes that go with it, and does not end in an open class. -/
def directionFits (label : List Char) : Bool :=
  match label.map Unicode.direction with
  | [] => true
  | first :: rest =>
    let last := ((first :: rest).reverse.dropWhile (· == .nonspacing)).head?
    match first with
    | .rightToLeft =>
      rest.all (fun d => d != .leftToRight && d != .excluded) &&
        (last == some .rightToLeft || last == some .europeanNumber || last == some .arabicNumber) &&
        !(rest.contains .europeanNumber && rest.contains .arabicNumber)
    | .leftToRight =>
      rest.all (fun d => d != .rightToLeft && d != .arabicNumber && d != .excluded) &&
        (last == some .leftToRight || last == some .europeanNumber)
    | _ => false

def joinWithDots : List (List Char) → List Char
  | [] => []
  | [label] => label
  | label :: rest => label ++ '.' :: joinWithDots rest

def toAscii (name : List Char) : Option (List Char) := do
  let text := Unicode.canonical (← mapped name)
  if text.any fun c => isAscii c && isForbidden c then none
  let labels ← (cutAtDots [] text).mapM label?
  let bidirectional := labels.any (·.text.any isRightToLeft)
  if bidirectional && !(labels.all (directionFits ·.text)) then none
  some (joinWithDots (labels.map (·.written)))

end Sitemaps.Url.Domain

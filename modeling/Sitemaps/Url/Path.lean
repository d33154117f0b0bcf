import Sitemaps.Url.Basic
import Sitemaps.Url.Percent

/-!
Paths as they are read: segments are added one by one, `.` stays where it is, and `..` goes up
unless a drive letter stands in the way.
-/

namespace Sitemaps.Url

def isSeparator (kind : Kind) (c : Char) : Bool := c == '/' || (kind.isSpecial && c == '\\')

/-- The text between separators; there is one piece more than there are separators. -/
def pieces (kind : Kind) (piece : List Char) : List Char → List (List Char)
  | [] => [piece.reverse]
  | c :: rest =>
    if isSeparator kind c then piece.reverse :: pieces kind [] rest
    else pieces kind (c :: piece) rest

def plainDots : List Char → List Char
  | '%' :: '2' :: 'e' :: rest => '.' :: plainDots rest
  | '%' :: '2' :: 'E' :: rest => '.' :: plainDots rest
  | c :: rest => c :: plainDots rest
  | [] => []

def isHere (piece : List Char) : Bool := plainDots piece == ['.']
def isUp (piece : List Char) : Bool := plainDots piece == ['.', '.']

def isDrive : List Char → Bool
  | [letter, mark] => letter.isAlpha && (mark == ':' || mark == '|')
  | _ => false

/-- A drive letter is always written with a colon. -/
def isWrittenDrive (piece : List Char) : Bool := isDrive piece && piece.getLast? == some ':'

def goUp (names : List (List Char)) : List (List Char) :=
  match names.getLast? with
  | none => names
  | some last => if isDrive last then names else names.dropLast

def segment (kind : Kind) (piece : List Char) : List Char :=
  let written := percentEncode pathSet piece
  if kind = .file && isDrive written then written.take 1 ++ [':'] else written

def enter (kind : Kind) (names : List (List Char)) (piece : List Char) : List (List Char) :=
  if isUp piece then goUp names else if isHere piece then names else names ++ [segment kind piece]

def settle (kind : Kind) (names : List (List Char)) (piece : List Char) : List (List Char) :=
  if isUp piece then goUp names ++ [[]]
  else if isHere piece then names ++ [[]]
  else names ++ [segment kind piece]

def walkPath (kind : Kind) (names : List (List Char)) : List (List Char) → List (List Char)
  | [] => names
  | [last] => settle kind names last
  | piece :: rest => walkPath kind (enter kind names piece) rest

/-- Slashes at the front of a file's path count as one. -/
def withoutLeadingGaps (names : List (List Char)) : List (List Char) :=
  match names.dropWhile List.isEmpty with
  | [] => [[]]
  | names => names

def follow (kind : Kind) (names : List (List Char)) (text : List Char) : List (List Char) :=
  let found := walkPath kind names (pieces kind [] text)
  if kind = .file then withoutLeadingGaps found else found

/-- Whether a drive letter stands among the pieces; a file on a drive has no host. -/
def namesDrive (kind : Kind) (text : List Char) : Bool := (pieces kind [] text).any isDrive

def Path.ofNames (names : List (List Char)) : Path := .segments (names.map String.ofList)

def Path.names : Path → List (List Char)
  | .rigid _ => []
  | .segments names => names.map String.toList

end Sitemaps.Url

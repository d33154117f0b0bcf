import Sitemaps.Text.Ascii
import Sitemaps.Xml.Fault

/-!
References in character data: the five predefined entities and character numbers in decimal or
hexadecimal.
-/

namespace Sitemaps.Xml

def predefined? : List Char → Option Char
  | ['l', 't'] => some '<'
  | ['g', 't'] => some '>'
  | ['a', 'm', 'p'] => some '&'
  | ['a', 'p', 'o', 's'] => some '\''
  | ['q', 'u', 'o', 't'] => some '"'
  | _ => none

def digitIn? (base : Nat) (c : Char) : Option Nat :=
  if base == 16 then Text.hexValue? c else Text.digitValue? c

/-- Reads the digits in order; the first one that is none, or that leaves 32 bits, decides the
fault. -/
def numberFrom (base value : Nat) : List Char → Except Reference Nat
  | [] => .ok value
  | c :: rest =>
    match digitIn? base c with
    | none => .error .notADigit
    | some digit =>
      let next := value * base + digit
      if next < UInt32.size then numberFrom base next rest else .error .tooLarge

def number (base : Nat) : List Char → Except Reference Nat
  | [] => .error .noDigits
  | c :: rest => if c == '+' || c == '-' then .error .signed else numberFrom base 0 (c :: rest)

def numbered (text : List Char) : Except Reference Char := do
  let code ← match text with
    | 'x' :: digits => number 16 digits
    | digits => number 10 digits
  if code = 0 then .error .zero
  else if code.isValidChar then .ok (Char.ofNat code)
  else .error (.notACharacter code)

def byteLength (text : List Char) : Nat := text.foldr (fun c total => c.utf8Size + total) 0

def endsReference (c : Char) : Bool := c == '&' || c == ';'

/-- Resolves the references of a text, of which `position` counts the bytes read and `total` all. -/
def unescapeFrom (position total : Nat) (read : List Char) : List Char → Except Fault (List Char)
  | [] => .ok read.reverse
  | '&' :: rest =>
    let name := rest.takeWhile (fun c => !endsReference c)
    match _ended : rest.dropWhile (fun c => !endsReference c) with
    | ';' :: after =>
      let stop := position + 1 + byteLength name
      match name with
      | '#' :: digits =>
        match numbered digits with
        | .ok c => unescapeFrom (stop + 1) total (c :: read) after
        | .error reference => .error (.badReference reference)
      | _ =>
        match predefined? name with
        | some c => unescapeFrom (stop + 1) total (c :: read) after
        | none => .error (.unknownEntity (position + 1) stop (String.ofList name))
    | _ => .error (.unterminatedReference position total)
  | c :: rest => unescapeFrom (position + c.utf8Size) total (c :: read) rest
  termination_by text => text.length
  decreasing_by
    all_goals try (simp; done)
    all_goals
      have short := (List.dropWhile_sublist (l := rest) (fun c => !endsReference c)).length_le
      rw [_ended] at short
      simp at short ⊢
      omega

def unescape (text : List Char) : Except Fault (List Char) :=
  unescapeFrom 0 (byteLength text) [] text

end Sitemaps.Xml

import Sitemaps.Text.Ascii
import Sitemaps.Text.Utf8

/-!
Percent-encoding: which ASCII characters each part of a URL writes as bytes, and reading them back.
-/

namespace Sitemaps.Url

/-- The ASCII characters that a part encodes besides controls; what is not ASCII is always encoded.
-/
abbrev EncodeSet := List Char

def fragmentSet : EncodeSet := [' ', '"', '<', '>', '`']
def pathSet : EncodeSet := fragmentSet ++ ['#', '?', '\x7b', '\x7d']
def userinfoSet : EncodeSet := pathSet ++ ['/', ':', ';', '=', '@', '[', '\\', ']', '^', '|']
def querySet : EncodeSet := [' ', '"', '#', '<', '>']
def specialQuerySet : EncodeSet := querySet ++ ['\'']
def controlSet : EncodeSet := []

def mustEncode (set : EncodeSet) (c : Char) : Bool :=
  c.toNat < 0x20 || 0x7F ≤ c.toNat || set.contains c

def hexDigit (n : Nat) : Char := if n < 10 then Char.ofNat (48 + n) else Char.ofNat (55 + n)

def encodeByte (b : UInt8) : List Char := ['%', hexDigit (b.toNat / 16), hexDigit (b.toNat % 16)]

def encodeChar (set : EncodeSet) (c : Char) : List Char :=
  if mustEncode set c then (Text.Utf8.encode (String.singleton c)).flatMap encodeByte else [c]

def percentEncode (set : EncodeSet) (text : List Char) : List Char := text.flatMap (encodeChar set)

/-- A percent sign without two digits after it stands for itself. -/
def percentDecode : List Char → List UInt8
  | [] => []
  | '%' :: a :: b :: rest =>
    match Text.hexValue? a, Text.hexValue? b with
    | some high, some low => (high * 16 + low).toUInt8 :: percentDecode rest
    | _, _ => 0x25 :: percentDecode (a :: b :: rest)
  | c :: rest => Text.Utf8.encode (String.singleton c) ++ percentDecode rest
  termination_by text => text.length

end Sitemaps.Url

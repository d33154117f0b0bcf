/-!
Reading UTF-8. A byte sequence is cut into pieces: characters, and the longest beginnings of
characters that the next byte rules out.
-/

namespace Sitemaps.Text.Utf8

inductive Fault
  | invalid (length index : Nat)
  | incomplete (index : Nat)
  deriving DecidableEq, Repr

def Fault.message : Fault → String
  | .invalid length index => s!"invalid utf-8 sequence of {length} bytes from index {index}"
  | .incomplete index => s!"incomplete utf-8 byte sequence from index {index}"

inductive Piece
  | char (c : Char)
  | invalid (length : Nat)
  | cut

def width (first : UInt8) : Nat :=
  if first < 0x80 then 1
  else if 0xC2 ≤ first && first ≤ 0xDF then 2
  else if 0xE0 ≤ first && first ≤ 0xEF then 3
  else if 0xF0 ≤ first && first ≤ 0xF4 then 4
  else 0

def isTail (b : UInt8) : Bool := 0x80 ≤ b && b ≤ 0xBF

/-- The second byte is narrowed where it would spell a surrogate, an overlong form or too large a
number. -/
def isSecond (first second : UInt8) : Bool :=
  if first == 0xE0 then 0xA0 ≤ second && second ≤ 0xBF
  else if first == 0xED then 0x80 ≤ second && second ≤ 0x9F
  else if first == 0xF0 then 0x90 ≤ second && second ≤ 0xBF
  else if first == 0xF4 then 0x80 ≤ second && second ≤ 0x8F
  else isTail second

def bits (b : UInt8) : Nat := b.toNat % 0x40

def piece (first : UInt8) (rest : List UInt8) : Piece :=
  match width first with
  | 1 => .char (Char.ofNat first.toNat)
  | 2 =>
    match rest with
    | [] => .cut
    | second :: _ =>
      if isTail second then .char (Char.ofNat (first.toNat % 0x20 * 0x40 + bits second))
      else .invalid 1
  | 3 =>
    match rest with
    | [] => .cut
    | second :: rest =>
      if !isSecond first second then .invalid 1 else
      match rest with
      | [] => .cut
      | third :: _ =>
        if !isTail third then .invalid 2 else
        .char (Char.ofNat ((first.toNat % 0x10 * 0x40 + bits second) * 0x40 + bits third))
  | 4 =>
    match rest with
    | [] => .cut
    | second :: rest =>
      if !isSecond first second then .invalid 1 else
      match rest with
      | [] => .cut
      | third :: rest =>
        if !isTail third then .invalid 2 else
        match rest with
        | [] => .cut
        | fourth :: _ =>
          if !isTail fourth then .invalid 3 else
          .char (Char.ofNat
            (((first.toNat % 0x08 * 0x40 + bits second) * 0x40 + bits third) * 0x40 + bits fourth))
  | _ => .invalid 1

def decodeFrom (index : Nat) (read : List Char) : List UInt8 → Except Fault (List Char)
  | [] => .ok read.reverse
  | first :: rest =>
    match piece first rest with
    | .char c => decodeFrom (index + c.utf8Size) (c :: read) (rest.drop (c.utf8Size - 1))
    | .invalid length => .error (.invalid length index)
    | .cut => .error (.incomplete index)
  termination_by bytes => bytes.length
  decreasing_by
    rw [List.length_drop, List.length_cons]
    omega

def decode (bytes : List UInt8) : Except Fault (List Char) := decodeFrom 0 [] bytes

def replacement : Char := Char.ofNat 0xFFFD

def decodeLossyFrom (read : List Char) : List UInt8 → List Char
  | [] => read.reverse
  | first :: rest =>
    match piece first rest with
    | .char c => decodeLossyFrom (c :: read) (rest.drop (c.utf8Size - 1))
    | .invalid length => decodeLossyFrom (replacement :: read) (rest.drop (length - 1))
    | .cut => (replacement :: read).reverse
  termination_by bytes => bytes.length
  decreasing_by
    all_goals
      rw [List.length_drop, List.length_cons]
      omega

/-- Each faulty piece reads as one replacement character. -/
def decodeLossy (bytes : List UInt8) : List Char := decodeLossyFrom [] bytes

def decode? (bytes : List UInt8) : Option String := (decode bytes).toOption.map String.ofList

def encode (text : String) : List UInt8 := text.toUTF8.toList

end Sitemaps.Text.Utf8

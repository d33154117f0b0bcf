/-! The SHA-256 digest, by which configuration texts are told apart. -/

namespace Sitemaps.Config.Digest

/-- Fractional parts of the square roots of the first primes. -/
def initial : List UInt32 :=
  [0x6A09E667, 0xBB67AE85, 0x3C6EF372, 0xA54FF53A, 0x510E527F, 0x9B05688C, 0x1F83D9AB, 0x5BE0CD19]

/-- Fractional parts of the cube roots of the first primes, one for each round. -/
def roundConstants : List UInt32 :=
  [0x428A2F98, 0x71374491, 0xB5C0FBCF, 0xE9B5DBA5, 0x3956C25B, 0x59F111F1, 0x923F82A4, 0xAB1C5ED5,
    0xD807AA98, 0x12835B01, 0x243185BE, 0x550C7DC3, 0x72BE5D74, 0x80DEB1FE, 0x9BDC06A7, 0xC19BF174,
    0xE49B69C1, 0xEFBE4786, 0x0FC19DC6, 0x240CA1CC, 0x2DE92C6F, 0x4A7484AA, 0x5CB0A9DC, 0x76F988DA,
    0x983E5152, 0xA831C66D, 0xB00327C8, 0xBF597FC7, 0xC6E00BF3, 0xD5A79147, 0x06CA6351, 0x14292967,
    0x27B70A85, 0x2E1B2138, 0x4D2C6DFC, 0x53380D13, 0x650A7354, 0x766A0ABB, 0x81C2C92E, 0x92722C85,
    0xA2BFE8A1, 0xA81A664B, 0xC24B8B70, 0xC76C51A3, 0xD192E819, 0xD6990624, 0xF40E3585, 0x106AA070,
    0x19A4C116, 0x1E376C08, 0x2748774C, 0x34B0BCB5, 0x391C0CB3, 0x4ED8AA4A, 0x5B9CCA4F, 0x682E6FF3,
    0x748F82EE, 0x78A5636F, 0x84C87814, 0x8CC70208, 0x90BEFFFA, 0xA4506CEB, 0xBEF9A3F7, 0xC67178F2]

def rotate (x : UInt32) (places : UInt32) : UInt32 := (x >>> places) ||| (x <<< (32 - places))

def word (bytes : List UInt8) : UInt32 := bytes.foldl (fun w b => (w <<< 8) ||| b.toUInt32) 0

def pieces {α : Type} (size : Nat) : Nat → List α → List (List α)
  | 0, _ => []
  | count + 1, list => list.take size :: pieces size count (list.drop size)

def padded (bytes : List UInt8) : List UInt8 :=
  let zeros := (119 - bytes.length % 64) % 64
  let bits := 8 * bytes.length
  bytes ++ [0x80] ++ List.replicate zeros 0 ++
    (List.range 8).reverse.map fun place => (bits / Nat.pow 256 place % 256).toUInt8

def extendOnce (schedule : Array UInt32) : Array UInt32 :=
  let back (places : Nat) : UInt32 := schedule.getD (schedule.size - places) 0
  let old := back 15
  let recent := back 2
  let low := rotate old 7 ^^^ rotate old 18 ^^^ (old >>> 3)
  let high := rotate recent 17 ^^^ rotate recent 19 ^^^ (recent >>> 10)
  schedule.push (back 16 + low + back 7 + high)

def schedule (block : List UInt8) : Array UInt32 :=
  (List.range 48).foldl (fun words _ => extendOnce words) ((pieces 4 16 block).map word).toArray

structure State where
  a : UInt32
  b : UInt32
  c : UInt32
  d : UInt32
  e : UInt32
  f : UInt32
  g : UInt32
  h : UInt32

def State.round (s : State) (input : UInt32 × UInt32) : State :=
  let high := rotate s.e 6 ^^^ rotate s.e 11 ^^^ rotate s.e 25
  let choice := (s.e &&& s.f) ^^^ ((~~~s.e) &&& s.g)
  let first := s.h + high + choice + input.1 + input.2
  let low := rotate s.a 2 ^^^ rotate s.a 13 ^^^ rotate s.a 22
  let majority := (s.a &&& s.b) ^^^ (s.a &&& s.c) ^^^ (s.b &&& s.c)
  ⟨first + (low + majority), s.a, s.b, s.c, s.d + first, s.e, s.f, s.g⟩

def State.ofWords : List UInt32 → State
  | [a, b, c, d, e, f, g, h] => ⟨a, b, c, d, e, f, g, h⟩
  | _ => ⟨0, 0, 0, 0, 0, 0, 0, 0⟩

def State.words (s : State) : List UInt32 := [s.a, s.b, s.c, s.d, s.e, s.f, s.g, s.h]

def compress (state : List UInt32) (block : List UInt8) : List UInt32 :=
  let mixed := (roundConstants.zip (schedule block).toList).foldl State.round (State.ofWords state)
  state.zipWith (· + ·) mixed.words

def hexDigits (width : Nat) (n : Nat) : String :=
  String.ofList ((List.range width).reverse.map fun place =>
    Nat.digitChar (n / Nat.pow 16 place % 16))

def text (bytes : List UInt8) : String :=
  let filled := padded bytes
  let words := (pieces 64 (filled.length / 64) filled).foldl compress initial
  String.join (words.map fun w => hexDigits 8 w.toNat)

end Sitemaps.Config.Digest

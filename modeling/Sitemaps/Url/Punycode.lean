/-!
Punycode: text of any script as letters, digits and hyphens. The ASCII characters stand first; the
others follow as gaps between the places and code points where they have to be inserted.
-/

namespace Sitemaps.Url.Punycode

def base : Nat := 36
def initialBias : Nat := 72
def initialCode : Nat := 0x80

def adapt (delta count : Nat) (first : Bool) : Nat :=
  let delta := if first then delta / 700 else delta / 2
  fold 0 (delta + delta / count)
where
  fold (k delta : Nat) : Nat :=
    if 455 < delta then fold (k + base) (delta / 35) else k + 36 * delta / (delta + 38)
  termination_by delta

/-- The digit from which a number ends at position `k`. -/
def threshold (k bias : Nat) : Nat := min 26 (max 1 (k - bias))

def digitChar (d : Nat) : Char := if d < 26 then Char.ofNat (97 + d) else Char.ofNat (22 + d)

def digit? (c : Char) : Option Nat :=
  if 'a' ≤ c ∧ c ≤ 'z' then some (c.toNat - 97)
  else if 'A' ≤ c ∧ c ≤ 'Z' then some (c.toNat - 65)
  else if '0' ≤ c ∧ c ≤ '9' then some (c.toNat - 22)
  else none

theorem threshold_pos (k bias : Nat) : 1 ≤ threshold k bias := by unfold threshold; omega
theorem threshold_le (k bias : Nat) : threshold k bias ≤ 26 := by unfold threshold; omega

def numberDigits (bias k value : Nat) : List Char :=
  let t := threshold k bias
  if value < t then [digitChar value]
  else
    digitChar (t + (value - t) % (base - t)) ::
      numberDigits bias (k + base) ((value - t) / (base - t))
  termination_by value
  decreasing_by
    have low := threshold_pos k bias
    have high := threshold_le k bias
    have : (value - threshold k bias) / (base - threshold k bias) ≤ value - threshold k bias :=
      Nat.div_le_self _ _
    omega

structure Encoder where
  delta : Nat
  bias : Nat
  /-- Characters written so far, the ASCII ones included. -/
  written : Nat
  first : Bool
  out : List Char

def pass (code : Nat) (state : Encoder) (c : Char) : Encoder :=
  if c.toNat < code then { state with delta := state.delta + 1 }
  else if c.toNat = code then
    { delta := 0
      bias := adapt state.delta (state.written + 1) state.first
      written := state.written + 1
      first := false
      out := state.out ++ numberDigits state.bias base state.delta }
  else state

def passes (text : List Char) (state : Encoder) (previous : Nat) : List Nat → Encoder
  | [] => state
  | code :: codes =>
    let start := { state with delta := state.delta + (code - previous) * (state.written + 1) }
    let state := text.foldl (pass code) start
    passes text { state with delta := state.delta + 1 } (code + 1) codes

def encode (text : List Char) : List Char :=
  let basic := text.filter (·.toNat < initialCode)
  let codes := ((text.map Char.toNat).filter (initialCode ≤ ·)).mergeSort.eraseDups
  let start := if basic.isEmpty then [] else basic ++ ['-']
  (passes text ⟨0, initialBias, basic.length, true, start⟩ initialCode codes).out

def number? (bias k weight value : Nat) : List Char → Option (Nat × List Char)
  | [] => none
  | c :: rest => do
    let d ← digit? c
    let t := threshold k bias
    let value := value + d * weight
    if d < t then some (value, rest) else number? bias (k + base) (weight * (base - t)) value rest

theorem number?_shorter {bias k weight value text result rest}
    (read : number? bias k weight value text = some (result, rest)) :
    rest.length < text.length := by
  induction text generalizing k weight value with
  | nil => simp [number?] at read
  | cons c tail ih =>
    unfold number? at read
    cases digit : digit? c with
    | none => simp [digit] at read
    | some d =>
      simp only [digit, bind, Option.bind] at read
      split at read
      · simp at read
        simp [read.2]
      · have := ih read
        simp; omega

def decodeFrom (code bias place : Nat) (first : Bool) (out : List Char) (text : List Char) :
    Option (List Char) :=
  match text with
  | [] => some out
  | c :: tail =>
    match read : number? bias base 1 0 (c :: tail) with
    | none => none
    | some (delta, rest) =>
      let count := out.length + 1
      let place := place + delta
      let code := code + place / count
      if code.isValidChar then
        have := number?_shorter read
        decodeFrom code (adapt delta count first) (place % count + 1) false
          (out.insertIdx (place % count) (Char.ofNat code)) rest
      else none
  termination_by text.length
  decreasing_by exact this

def decode (text : List Char) : Option (List Char) :=
  let digits := (text.reverse.takeWhile (· != '-')).reverse
  let basic := (text.take (text.length - digits.length)).dropLast
  if basic.all (·.toNat < initialCode) then
    decodeFrom initialCode initialBias 0 true basic (if basic.isEmpty then text else digits)
  else none

end Sitemaps.Url.Punycode

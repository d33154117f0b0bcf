import Std.Data.HashMap
import Sitemaps.Unicode.CanonicalData

/-!
Canonical composition (normalization form C): characters are taken apart, marks are brought into the
order of their classes, and what can be composed is put together again.
-/

namespace Sitemaps.Unicode

def combiningClass (c : Char) : Nat :=
  ((combiningClasses.find? c.toNat).map (·.2.natAbs)).getD 0

def decomposition? (c : Char) : Option (List Char) :=
  (decompositions.find? c.toNat).bind fun (first, spellings) => spellings[c.toNat - first]?

namespace Hangul

def syllables : Nat := 0xAC00
def leads : Nat := 0x1100
def vowels : Nat := 0x1161
def tails : Nat := 0x11A7
def vowelCount : Nat := 21
def tailCount : Nat := 28
def leadCount : Nat := 19

def decompose? (c : Char) : Option (List Char) :=
  let index := c.toNat - syllables
  if syllables ≤ c.toNat ∧ index < leadCount * vowelCount * tailCount then
    let lead := Char.ofNat (leads + index / (vowelCount * tailCount))
    let vowel := Char.ofNat (vowels + index / tailCount % vowelCount)
    let tail := index % tailCount
    some (if tail = 0 then [lead, vowel] else [lead, vowel, Char.ofNat (tails + tail)])
  else none

def compose? (a b : Char) : Option Char :=
  let lead := a.toNat - leads
  let vowel := b.toNat - vowels
  let syllable := a.toNat - syllables
  let tail := b.toNat - tails
  if leads ≤ a.toNat ∧ lead < leadCount ∧ vowels ≤ b.toNat ∧ vowel < vowelCount then
    some (Char.ofNat (syllables + (lead * vowelCount + vowel) * tailCount))
  else if syllables ≤ a.toNat ∧ syllable < leadCount * vowelCount * tailCount ∧
      syllable % tailCount = 0 ∧ tails < b.toNat ∧ tail < tailCount then
    some (Char.ofNat (a.toNat + tail))
  else none

end Hangul

/-- No character takes more than four steps to fall apart. -/
def decomposeFully : Nat → Char → List Char
  | 0, c => [c]
  | steps + 1, c =>
    match Hangul.decompose? c with
    | some parts => parts
    | none =>
      match decomposition? c with
      | some parts => parts.flatMap (decomposeFully steps)
      | none => [c]

def insertMark (mark : Char) : List Char → List Char
  | [] => [mark]
  | c :: rest =>
    if combiningClass c ≤ combiningClass mark then c :: insertMark mark rest else mark :: c :: rest

def orderMarks (run : List Char) : List Char → List Char
  | [] => run
  | c :: rest =>
    if combiningClass c = 0 then run ++ c :: orderMarks [] rest
    else orderMarks (insertMark c run) rest

def decomposed (text : List Char) : List Char :=
  orderMarks [] (text.flatMap (decomposeFully 4))

def composites : Std.HashMap (Nat × Nat) Char :=
  decompositions.rows.foldl (fun known row =>
    (row.value.toList.zipIdx row.first).foldl (fun known (parts, code) =>
      match parts with
      | [a, b] =>
        if uncomposedRanges.contains code then known
        else known.insert (a.toNat, b.toNat) (Char.ofNat code)
      | _ => known) known) {}

def compose? (a b : Char) : Option Char :=
  match Hangul.compose? a b with
  | some c => some c
  | none => composites[(a.toNat, b.toNat)]?

/-- Composes `starter` with what follows it. `kept` are the characters passed over, the latest
first, and `barrier` is the class of the last of them. -/
def composeFrom (starter : Char) (kept : List Char) (barrier : Nat) : List Char → List Char
  | [] => starter :: kept.reverse
  | c :: rest =>
    let class_ := combiningClass c
    let blocked := !kept.isEmpty && (barrier = 0 || class_ ≤ barrier)
    match if blocked then none else compose? starter c with
    | some whole => composeFrom whole kept barrier rest
    | none =>
      if class_ = 0 then starter :: kept.reverse ++ composeFrom c [] 0 rest
      else composeFrom starter (c :: kept) class_ rest

def composed : List Char → List Char
  | [] => []
  | c :: rest =>
    if combiningClass c = 0 then composeFrom c [] 0 rest else c :: composed rest

def canonical (text : List Char) : List Char := composed (decomposed text)

end Sitemaps.Unicode

import Sitemaps.Gzip.Bits

/-!
Prefix codes given by the lengths of their words. Words of one length follow each other in the order
of their symbols, after all shorter words.
-/

namespace Sitemaps.Gzip

inductive Code
  | unused
  | symbol (number : Nat)
  | fork (zero one : Code)
  deriving Repr

namespace Code

def isComplete : Code → Bool
  | .unused => false
  | .symbol _ => true
  | .fork zero one => zero.isComplete && one.isComplete

def read : Code → Bits → Except Fault (Nat × Bits)
  | .unused, _ => .error .corrupt
  | .symbol number, bits => .ok (number, bits)
  | .fork zero one, bits =>
    match bits.next? with
    | none => .error .incomplete
    | some (true, rest) => one.read rest
    | some (false, rest) => zero.read rest

theorem read_size (code : Code) (bits rest : Bits) (n : Nat)
    (done : code.read bits = .ok (n, rest)) : rest.size ≤ bits.size := by
  induction code generalizing bits with
  | unused => simp [read] at done
  | symbol number =>
    simp only [read, Except.ok.injEq, Prod.mk.injEq] at done
    simp [done.2]
  | fork zero one zeroSize oneSize =>
    simp only [read] at done
    split at done
    · cases done
    all_goals
      rename_i after first
      have one := Bits.next_size _ _ _ first
    · have others := oneSize _ done
      omega
    · have others := zeroSize _ done
      omega

end Code

structure Tree where
  zero : Code
  one : Code
  deriving Repr

namespace Tree

def isComplete (tree : Tree) : Bool := tree.zero.isComplete && tree.one.isComplete

def read (tree : Tree) (bits : Bits) : Except Fault (Nat × Bits) :=
  (Code.fork tree.zero tree.one).read bits

theorem read_size (tree : Tree) (bits rest : Bits) (n : Nat)
    (done : tree.read bits = .ok (n, rest)) : rest.size < bits.size := by
  simp only [read, Code.read] at done
  split at done
  · cases done
  all_goals
    rename_i after first
    have one := Bits.next_size _ _ _ first
    have others := Code.read_size _ _ _ _ done
    omega

end Tree

def pairs : List Code → List Code
  | zero :: one :: rest => .fork zero one :: pairs rest
  | [zero] => [.fork zero .unused]
  | [] => []

def wordsOf (lengths : List Nat) (length : Nat) : List Code :=
  (lengths.zipIdx.filter (·.1 == length)).map fun entry => .symbol entry.2

def beginnings (lengths : List Nat) : Nat → Nat → List Code
  | depth, 0 => wordsOf lengths depth
  | depth, more + 1 => wordsOf lengths depth ++ pairs (beginnings lengths (depth + 1) more)

def longestWord : Nat := 15

/-- Lengths of zero mean symbols without a word. -/
def Tree.ofLengths (lengths : List Nat) : Option Tree :=
  match beginnings lengths 1 (longestWord - 1) with
  | [zero, one] => some ⟨zero, one⟩
  | [zero] => some ⟨zero, .unused⟩
  | [] => some ⟨.unused, .unused⟩
  | _ => none

def Tree.complete? (lengths : List Nat) : Option Tree :=
  (Tree.ofLengths lengths).filter (·.isComplete)

/-- As `complete?`, but a code may also have a single word or none. -/
def Tree.usable? (lengths : List Nat) : Option Tree :=
  (Tree.ofLengths lengths).filter fun tree =>
    tree.isComplete || (lengths.filter (· != 0)).length ≤ 1

end Sitemaps.Gzip

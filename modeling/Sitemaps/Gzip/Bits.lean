import Sitemaps.Gzip.Fault

/-! Reading bits, the lowest of each byte first. -/

namespace Sitemaps.Gzip

structure Bits where
  hand : Nat
  left : Nat
  bytes : List UInt8

namespace Bits

def start (bytes : List UInt8) : Bits := ⟨0, 0, bytes⟩

def size (bits : Bits) : Nat := bits.left + 8 * bits.bytes.length

def next? : Bits → Option (Bool × Bits)
  | ⟨hand, left + 1, bytes⟩ => some (hand % 2 == 1, ⟨hand / 2, left, bytes⟩)
  | ⟨_, 0, byte :: bytes⟩ => some (byte.toNat % 2 == 1, ⟨byte.toNat / 2, 7, bytes⟩)
  | ⟨_, 0, []⟩ => none

def number : Nat → Bits → Except Fault (Nat × Bits)
  | 0, bits => .ok (0, bits)
  | count + 1, bits =>
    match bits.next? with
    | none => .error .incomplete
    | some (bit, rest) =>
      match number count rest with
      | .error fault => .error fault
      | .ok (high, rest) => .ok (2 * high + bit.toNat, rest)

theorem next_size (bits rest : Bits) (bit : Bool) (read : bits.next? = some (bit, rest)) :
    rest.size + 1 = bits.size := by
  unfold next? at read
  split at read <;> simp only [Option.some.injEq, Prod.mk.injEq, reduceCtorEq] at read
  all_goals
    rw [← read.2]
    simp [size]
    omega

theorem number_size (count : Nat) (bits rest : Bits) (n : Nat)
    (read : number count bits = .ok (n, rest)) : rest.size + count = bits.size := by
  induction count generalizing bits n rest with
  | zero =>
    simp only [number, Except.ok.injEq, Prod.mk.injEq] at read
    simp [read.2]
  | succ count ih =>
    simp only [number] at read
    split at read
    · cases read
    · rename_i bit after first
      have one := next_size _ _ _ first
      split at read
      · cases read
      · rename_i high last more
        have others := ih _ _ _ more
        simp only [Except.ok.injEq, Prod.mk.injEq] at read
        rw [← read.2]
        omega

end Bits

end Sitemaps.Gzip

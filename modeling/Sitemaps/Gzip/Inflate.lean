import Sitemaps.Gzip.Code

/-!
Expansion of deflated data: blocks of plain bytes, or of literals and references to earlier output.
-/

namespace Sitemaps.Gzip

/-- The smallest value that a symbol stands for, and how many bits of addition follow it. -/
structure Span where
  base : Nat
  extra : Nat

def lengthSpan? (symbol : Nat) : Option Span :=
  if symbol < 265 then some ⟨symbol - 254, 0⟩
  else if symbol < 285 then
    let extra := (symbol - 257) / 4 - 1
    some ⟨3 + (4 + (symbol - 257) % 4) * Nat.pow 2 extra, extra⟩
  else if symbol = 285 then some ⟨258, 0⟩
  else none

def distanceSpan? (symbol : Nat) : Option Span :=
  if symbol < 4 then some ⟨symbol + 1, 0⟩
  else if symbol < 30 then
    let extra := symbol / 2 - 1
    some ⟨1 + (2 + symbol % 2) * Nat.pow 2 extra, extra⟩
  else none

def Span.read (span : Option Span) (bits : Bits) : Except Fault (Nat × Bits) :=
  match span with
  | none => .error .corrupt
  | some span =>
    match bits.number span.extra with
    | .error fault => .error fault
    | .ok (added, rest) => .ok (span.base + added, rest)

theorem Span.read_size (span : Option Span) (bits rest : Bits) (n : Nat)
    (done : Span.read span bits = .ok (n, rest)) : rest.size ≤ bits.size := by
  unfold Span.read at done
  split at done
  · cases done
  · split at done
    · cases done
    · rename_i added after read
      have enough := Bits.number_size _ _ _ _ read
      simp only [Except.ok.injEq, Prod.mk.injEq] at done
      rw [← done.2]
      omega

/-- Repeats output from `distance` bytes back; whatever lies before all output is zero. -/
def copyBack (distance : Nat) : Nat → Array UInt8 → Array UInt8
  | 0, out => out
  | count + 1, out =>
    let byte := if distance ≤ out.size then out.getD (out.size - distance) 0 else 0
    copyBack distance count (out.push byte)

structure Codes where
  literals : Tree
  distances : Tree

def reference (codes : Codes) (symbol : Nat) (bits : Bits) : Except Fault (Nat × Nat × Bits) :=
  match Span.read (lengthSpan? symbol) bits with
  | .error fault => .error fault
  | .ok (length, rest) =>
    match codes.distances.read rest with
    | .error fault => .error fault
    | .ok (symbol, rest) =>
      match Span.read (distanceSpan? symbol) rest with
      | .error fault => .error fault
      | .ok (distance, rest) => .ok (length, distance, rest)

theorem reference_size (codes : Codes) (symbol length distance : Nat) (bits rest : Bits)
    (done : reference codes symbol bits = .ok (length, distance, rest)) :
    rest.size ≤ bits.size := by
  unfold reference at done
  split at done
  · cases done
  · rename_i first
    have one := Span.read_size _ _ _ _ first
    split at done
    · cases done
    · rename_i second
      have two := Tree.read_size _ _ _ _ second
      split at done
      · cases done
      · rename_i third
        have three := Span.read_size _ _ _ _ third
        simp only [Except.ok.injEq, Prod.mk.injEq] at done
        rw [← done.2.2]
        omega

def expand (codes : Codes) (bits : Bits) (out : Array UInt8) : Except Fault (Bits × Array UInt8) :=
  match _read : codes.literals.read bits with
  | .error fault => .error fault
  | .ok (symbol, rest) =>
    if symbol < 256 then expand codes rest (out.push symbol.toUInt8)
    else if symbol = 256 then .ok (rest, out)
    else
      match _back : reference codes symbol rest with
      | .error fault => .error fault
      | .ok (length, distance, after) => expand codes after (copyBack distance length out)
  termination_by bits.size
  decreasing_by
    · exact Tree.read_size _ _ _ _ _read
    · have := Tree.read_size _ _ _ _ _read
      have := reference_size _ _ _ _ _ _ _back
      omega

theorem expand_size (codes : Codes) (bits rest : Bits) (out all : Array UInt8)
    (done : expand codes bits out = .ok (rest, all)) : rest.size ≤ bits.size := by
  fun_induction expand codes bits out with
  | case1 => cases done
  | case2 bits out symbol after read _ ih =>
    have := Tree.read_size _ _ _ _ read
    have := ih done
    omega
  | case3 bits out after read =>
    have := Tree.read_size _ _ _ _ read
    simp only [Except.ok.injEq, Prod.mk.injEq] at done
    rw [← done.1]
    omega
  | case4 => cases done
  | case5 bits out symbol after read _ _ length distance last back ih =>
    have := Tree.read_size _ _ _ _ read
    have := reference_size _ _ _ _ _ _ back
    have := ih done
    omega

def lengthsAfter (code : Tree) (lengths : List Nat) (bits : Bits) :
    Except Fault (List Nat × Bits) :=
  match code.read bits with
  | .error fault => .error fault
  | .ok (symbol, rest) =>
    if symbol < 16 then .ok (symbol :: lengths, rest)
    else
      let repeated (extra base value : Nat) : Except Fault (List Nat × Bits) :=
        match rest.number extra with
        | .error fault => .error fault
        | .ok (added, rest) => .ok (List.replicate (base + added) value ++ lengths, rest)
      if symbol = 16 then
        match lengths with
        | [] => .error .corrupt
        | last :: _ => repeated 2 3 last
      else if symbol = 17 then repeated 3 3 0
      else repeated 7 11 0

theorem lengthsAfter_size (code : Tree) (lengths more : List Nat) (bits rest : Bits)
    (done : lengthsAfter code lengths bits = .ok (more, rest)) : rest.size < bits.size := by
  unfold lengthsAfter at done
  split at done
  · cases done
  · rename_i symbol after read
    have one := Tree.read_size _ _ _ _ read
    dsimp only at done
    split at done
    · simp only [Except.ok.injEq, Prod.mk.injEq] at done
      rw [← done.2]
      exact one
    · have repeated (extra base value : Nat)
          (done : (match after.number extra with
            | .error fault => .error fault
            | .ok (added, rest) =>
              .ok (List.replicate (base + added) value ++ lengths, rest) :
              Except Fault (List Nat × Bits)) = .ok (more, rest)) : rest.size < bits.size := by
        split at done
        · cases done
        · rename_i added last number
          have two := Bits.number_size _ _ _ _ number
          simp only [Except.ok.injEq, Prod.mk.injEq] at done
          rw [← done.2]
          omega
      split at done
      · split at done
        · cases done
        · exact repeated _ _ _ done
      · split at done
        · exact repeated _ _ _ done
        · exact repeated _ _ _ done

def codeLengths (code : Tree) (total : Nat) (lengths : List Nat) (bits : Bits) :
    Except Fault (List Nat × Bits) :=
  if lengths.length = total then .ok (lengths.reverse, bits)
  else if total < lengths.length then .error .corrupt
  else
    match _read : lengthsAfter code lengths bits with
    | .error fault => .error fault
    | .ok (more, rest) => codeLengths code total more rest
  termination_by bits.size
  decreasing_by exact lengthsAfter_size _ _ _ _ _ _read

theorem codeLengths_size (code : Tree) (total : Nat) (lengths all : List Nat) (bits rest : Bits)
    (done : codeLengths code total lengths bits = .ok (all, rest)) : rest.size ≤ bits.size := by
  fun_induction codeLengths code total lengths bits with
  | case1 =>
    simp only [Except.ok.injEq, Prod.mk.injEq] at done
    simp [done.2]
  | case2 => cases done
  | case3 => cases done
  | case4 lengths bits _ _ more after read ih =>
    have := lengthsAfter_size _ _ _ _ _ read
    have := ih done
    omega

/-- The symbols of the code that code lengths are written in, in the order in which their own
lengths come. -/
def lengthOrder : List Nat := [16, 17, 18, 0, 8, 7, 9, 6, 10, 5, 11, 4, 12, 3, 13, 2, 14, 1, 15]

def numbers (width : Nat) : Nat → Bits → Except Fault (List Nat × Bits)
  | 0, bits => .ok ([], bits)
  | count + 1, bits =>
    match bits.number width with
    | .error fault => .error fault
    | .ok (first, rest) =>
      match numbers width count rest with
      | .error fault => .error fault
      | .ok (others, rest) => .ok (first :: others, rest)

theorem numbers_size (width count : Nat) (bits rest : Bits) (all : List Nat)
    (done : numbers width count bits = .ok (all, rest)) : rest.size ≤ bits.size := by
  induction count generalizing bits rest all with
  | zero =>
    simp only [numbers, Except.ok.injEq, Prod.mk.injEq] at done
    simp [done.2]
  | succ count ih =>
    simp only [numbers] at done
    split at done
    · cases done
    · rename_i first
      have one := Bits.number_size _ _ _ _ first
      split at done
      · cases done
      · rename_i others
        have two := ih _ _ _ others
        simp only [Except.ok.injEq, Prod.mk.injEq] at done
        rw [← done.2]
        omega

def orderedLengths (given : List Nat) : List Nat :=
  (List.range 19).map fun symbol => ((lengthOrder.zip given).lookup symbol).getD 0

def mostLiterals : Nat := 286
def mostDistances : Nat := 30

def writtenCodes (bits : Bits) : Except Fault (Codes × Bits) :=
  match bits.number 14 with
  | .error fault => .error fault
  | .ok (counts, rest) =>
    let literals := counts % 32 + 257
    let distances := counts / 32 % 32 + 1
    if mostLiterals < literals || mostDistances < distances then .error .corrupt
    else
      match numbers 3 (counts / 1024 + 4) rest with
      | .error fault => .error fault
      | .ok (given, rest) =>
        match Tree.complete? (orderedLengths given) with
        | none => .error .corrupt
        | some code =>
          match codeLengths code (literals + distances) [] rest with
          | .error fault => .error fault
          | .ok (lengths, rest) =>
            match Tree.usable? (lengths.take literals), Tree.usable? (lengths.drop literals) with
            | some literals, some distances => .ok (⟨literals, distances⟩, rest)
            | _, _ => .error .corrupt

theorem writtenCodes_size (bits rest : Bits) (codes : Codes)
    (done : writtenCodes bits = .ok (codes, rest)) : rest.size ≤ bits.size := by
  simp only [writtenCodes] at done
  split at done
  · cases done
  · rename_i counts after first
    have one := Bits.number_size _ _ _ _ first
    split at done
    · cases done
    · split at done
      · cases done
      · rename_i second
        have two := numbers_size _ _ _ _ _ second
        split at done
        · cases done
        · split at done
          · cases done
          · rename_i third
            have three := codeLengths_size _ _ _ _ _ _ third
            split at done
            · simp only [Except.ok.injEq, Prod.mk.injEq] at done
              rw [← done.2]
              omega
            · cases done

def agreedLiterals : List Nat :=
  List.replicate 144 8 ++ List.replicate 112 9 ++ List.replicate 24 7 ++ List.replicate 8 8

def agreedCodes : Option Codes :=
  match Tree.complete? agreedLiterals, Tree.complete? (List.replicate 32 5) with
  | some literals, some distances => some ⟨literals, distances⟩
  | _, _ => none

def plainBlock (bytes : List UInt8) (out : Array UInt8) : Except Fault (Bits × Array UInt8) :=
  match bytes with
  | low :: high :: lowCheck :: highCheck :: rest =>
    let length := low.toNat + 256 * high.toNat
    if length + (lowCheck.toNat + 256 * highCheck.toNat) = 0xFFFF then
      if rest.length < length then .error .incomplete
      else .ok (Bits.start (rest.drop length), out ++ (rest.take length).toArray)
    else .error .corrupt
  | _ => .error .incomplete

theorem plainBlock_size (bytes : List UInt8) (out all : Array UInt8) (rest : Bits)
    (done : plainBlock bytes out = .ok (rest, all)) : rest.size ≤ 8 * bytes.length := by
  unfold plainBlock at done
  split at done
  · dsimp only at done
    split at done
    · split at done
      · cases done
      · simp only [Except.ok.injEq, Prod.mk.injEq] at done
        rw [← done.1]
        simp [Bits.start, Bits.size]
        omega
    · cases done
  · cases done

def block (kind : Nat) (bits : Bits) (out : Array UInt8) : Except Fault (Bits × Array UInt8) :=
  match kind with
  | 0 => plainBlock bits.bytes out
  | 1 =>
    match agreedCodes with
    | none => .error .corrupt
    | some codes => expand codes bits out
  | 2 =>
    match writtenCodes bits with
    | .error fault => .error fault
    | .ok (codes, rest) => expand codes rest out
  | _ => .error .corrupt

theorem block_size (kind : Nat) (bits rest : Bits) (out all : Array UInt8)
    (done : block kind bits out = .ok (rest, all)) : rest.size ≤ bits.size := by
  unfold block at done
  split at done
  · have := plainBlock_size _ _ _ _ done
    simp only [Bits.size] at this ⊢
    omega
  · split at done
    · cases done
    · exact expand_size _ _ _ _ _ done
  · split at done
    · cases done
    · rename_i codes
      have := writtenCodes_size _ _ _ codes
      have := expand_size _ _ _ _ _ done
      omega
  · cases done

def blocks (bits : Bits) (out : Array UInt8) : Except Fault (Bits × Array UInt8) :=
  match _read : bits.number 3 with
  | .error fault => .error fault
  | .ok (head, rest) =>
    match _one : block (head / 2) rest out with
    | .error fault => .error fault
    | .ok (rest, out) => if head % 2 = 1 then .ok (rest, out) else blocks rest out
  termination_by bits.size
  decreasing_by
    have := Bits.number_size _ _ _ _ _read
    have := block_size _ _ _ _ _ _one
    omega

theorem blocks_size (bits rest : Bits) (out all : Array UInt8)
    (done : blocks bits out = .ok (rest, all)) : rest.size ≤ bits.size := by
  fun_induction blocks bits out with
  | case1 => cases done
  | case2 => cases done
  | case3 bits out head after read next more one =>
    have := Bits.number_size _ _ _ _ read
    have := block_size _ _ _ _ _ one
    simp_all
    omega
  | case4 bits out head after read next more one _ ih =>
    have := Bits.number_size _ _ _ _ read
    have := block_size _ _ _ _ _ one
    have := ih done
    omega

/-- The expanded data, and the bytes after the byte in which the compressed data ends. -/
def inflate (bytes : List UInt8) : Except Fault (List UInt8 × List UInt8) :=
  match blocks (Bits.start bytes) #[] with
  | .error fault => .error fault
  | .ok (rest, out) => .ok (out.toList, rest.bytes)

theorem inflate_rest (bytes out rest : List UInt8) (done : inflate bytes = .ok (out, rest)) :
    rest.length ≤ bytes.length := by
  unfold inflate at done
  split at done
  · cases done
  · rename_i after all read
    have := blocks_size _ _ _ _ read
    simp only [Except.ok.injEq, Prod.mk.injEq] at done
    rw [← done.2]
    simp [Bits.start, Bits.size] at this
    omega

end Sitemaps.Gzip

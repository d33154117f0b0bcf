import Sitemaps.Gzip.Checksum
import Sitemaps.Gzip.Inflate

/-! Archives: one member after another, each a header, deflated data and a check of the result. -/

namespace Sitemaps.Gzip

def longestField : Nat := 65535

def skipText (room : Nat) : List UInt8 → Except Fault (List UInt8)
  | [] => .error .ended
  | byte :: rest =>
    if byte = 0 then .ok rest
    else if room = 0 then .error .longField
    else skipText (room - 1) rest

def skipExtra : List UInt8 → Except Fault (List UInt8)
  | low :: high :: rest =>
    let length := low.toNat + 256 * high.toNat
    if rest.length < length then .error .ended else .ok (rest.drop length)
  | _ => .error .ended

def skipIf (present : Bool) (skip : List UInt8 → Except Fault (List UInt8)) (bytes : List UInt8) :
    Except Fault (List UInt8) :=
  if present then skip bytes else .ok bytes

def hasFlag (flags : UInt8) (place : Nat) : Bool := flags.toNat.testBit place

/-- Two bytes with the lower half of the sum of all header bytes before them. -/
def checkHeader (whole rest : List UInt8) : Except Fault (List UInt8) :=
  match rest with
  | low :: high :: after =>
    let sum := (checksum (whole.take (whole.length - rest.length))).toNat
    if sum % 0x10000 = low.toNat + 256 * high.toNat then .ok after else .error .checksum
  | _ => .error .ended

def header (bytes : List UInt8) : Except Fault (List UInt8) :=
  match bytes with
  | first :: second :: method :: flags :: _ :: _ :: _ :: _ :: _ :: _ :: rest =>
    if first ≠ 0x1F ∨ second ≠ 0x8B ∨ method ≠ 8 ∨ 0x20 ≤ flags then .error .header
    else do
      let rest ← skipIf (hasFlag flags 2) skipExtra rest
      let rest ← skipIf (hasFlag flags 3) (skipText longestField) rest
      let rest ← skipIf (hasFlag flags 4) (skipText longestField) rest
      skipIf (hasFlag flags 1) (checkHeader bytes) rest
  | _ => .error .ended

def littleEndian : List UInt8 → Nat
  | [] => 0
  | byte :: rest => byte.toNat + 256 * littleEndian rest

def checkResult (out : List UInt8) (trailer : List UInt8) : Except Fault (List UInt8) :=
  if trailer.length < 8 then .error .ended
  else if littleEndian (trailer.take 4) = (checksum out).toNat ∧
      littleEndian ((trailer.take 8).drop 4) = out.length % UInt32.size then .ok (trailer.drop 8)
  else .error .checksum

def member (bytes : List UInt8) : Except Fault (List UInt8 × List UInt8) :=
  match header bytes with
  | .error fault => .error fault
  | .ok data =>
    match inflate data with
    | .error fault => .error fault
    | .ok (out, trailer) =>
      match checkResult out trailer with
      | .error fault => .error fault
      | .ok rest => .ok (out, rest)

theorem skipText_rest (room : Nat) (bytes rest : List UInt8)
    (done : skipText room bytes = .ok rest) : rest.length ≤ bytes.length := by
  induction bytes generalizing room with
  | nil => simp [skipText] at done
  | cons byte bytes ih =>
    simp only [skipText] at done
    split at done
    · simp only [Except.ok.injEq] at done
      simp [done]
    · split at done
      · cases done
      · have := ih _ done
        simp only [List.length_cons]
        omega

theorem skipExtra_rest (bytes rest : List UInt8) (done : skipExtra bytes = .ok rest) :
    rest.length ≤ bytes.length := by
  unfold skipExtra at done
  split at done
  · dsimp only at done
    split at done
    · cases done
    · simp only [Except.ok.injEq] at done
      rw [← done]
      simp
      omega
  · cases done

theorem skipIf_rest (present : Bool) (skip : List UInt8 → Except Fault (List UInt8))
    (shorter : ∀ bytes rest, skip bytes = .ok rest → rest.length ≤ bytes.length)
    (bytes rest : List UInt8) (done : skipIf present skip bytes = .ok rest) :
    rest.length ≤ bytes.length := by
  unfold skipIf at done
  split at done
  · exact shorter _ _ done
  · simp only [Except.ok.injEq] at done
    simp [done]

theorem checkHeader_rest (whole bytes rest : List UInt8)
    (done : checkHeader whole bytes = .ok rest) : rest.length ≤ bytes.length := by
  unfold checkHeader at done
  split at done
  · dsimp only at done
    split at done
    · simp only [Except.ok.injEq] at done
      simp [done]
      omega
    · cases done
  · cases done

theorem bind_ok {α β : Type} (first : Except Fault α) (second : α → Except Fault β) (b : β)
    (done : (first >>= second) = .ok b) : ∃ a, first = .ok a ∧ second a = .ok b := by
  cases first with
  | error fault => cases done
  | ok a => exact ⟨a, rfl, done⟩

theorem header_rest (bytes rest : List UInt8) (done : header bytes = .ok rest) :
    rest.length + 10 ≤ bytes.length := by
  unfold header at done
  split at done
  · rename_i after
    split at done
    · cases done
    · obtain ⟨first, one, done⟩ := bind_ok _ _ _ done
      obtain ⟨second, two, done⟩ := bind_ok _ _ _ done
      obtain ⟨third, three, done⟩ := bind_ok _ _ _ done
      have one := skipIf_rest _ _ skipExtra_rest _ _ one
      have two := skipIf_rest _ _ (skipText_rest _) _ _ two
      have three := skipIf_rest _ _ (skipText_rest _) _ _ three
      have four := skipIf_rest _ _ (checkHeader_rest _) _ _ done
      simp only [List.length_cons]
      omega
  · cases done

theorem checkResult_rest (out trailer rest : List UInt8)
    (done : checkResult out trailer = .ok rest) : rest.length ≤ trailer.length := by
  unfold checkResult at done
  split at done
  · cases done
  · split at done
    · simp only [Except.ok.injEq] at done
      rw [← done]
      simp
    · cases done

theorem member_rest (bytes out rest : List UInt8) (done : member bytes = .ok (out, rest)) :
    rest.length < bytes.length := by
  unfold member at done
  split at done
  · cases done
  · rename_i data head
    have one := header_rest _ _ head
    split at done
    · cases done
    · rename_i result trailer expanded
      have two := inflate_rest _ _ _ expanded
      split at done
      · cases done
      · rename_i after checked
        have three := checkResult_rest _ _ _ checked
        simp only [Except.ok.injEq, Prod.mk.injEq] at done
        rw [← done.2]
        omega

def members (bytes : List UInt8) : Except Fault (List UInt8) :=
  match _first : member bytes with
  | .error fault => .error fault
  | .ok (out, []) => .ok out
  | .ok (out, byte :: rest) =>
    match members (byte :: rest) with
    | .error fault => .error fault
    | .ok others => .ok (out ++ others)
  termination_by bytes.length
  decreasing_by exact member_rest _ _ _ _first

/-- Expands an archive; if its transfer broke off, that shows once all bytes that came are used up.
-/
def expandArchive (bytes : List UInt8) (broken : Option String) : Except Fault (List UInt8) :=
  match members bytes, broken with
  | result, none => result
  | .ok _, some message => .error (.transfer message)
  | .error fault, some message =>
    .error (if fault.isShortage then .transfer message else fault)

end Sitemaps.Gzip

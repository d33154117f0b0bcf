import Sitemaps.Gzip.Archive

/-!
Expansion where the input goes on. Every part of an archive is read up to its own end and no
further, so that a member which is there as a whole expands to the same whatever stands behind it.
-/

namespace Sitemaps.Gzip

def Bits.prolong (bits : Bits) (more : List UInt8) : Bits :=
  { bits with bytes := bits.bytes ++ more }

section Prolonged

variable {bits rest : Bits} {out all : Array UInt8} (more : List UInt8)

theorem next?_prolong {bit : Bool} (read : bits.next? = some (bit, rest)) :
    (bits.prolong more).next? = some (bit, rest.prolong more) := by
  obtain ⟨hand, left, bytes⟩ := bits
  cases left with
  | succ left =>
    cases read
    rfl
  | zero =>
    cases bytes with
    | nil => cases read
    | cons byte bytes =>
      cases read
      rfl

theorem number_prolong {count value : Nat} (read : bits.number count = .ok (value, rest)) :
    (bits.prolong more).number count = .ok (value, rest.prolong more) := by
  induction count generalizing bits value with
  | zero =>
    cases read
    rfl
  | succ count ih =>
    rw [Bits.number] at read ⊢
    cases first : bits.next? with
    | none =>
      rw [first] at read
      cases read
    | some pair =>
      obtain ⟨bit, after⟩ := pair
      rw [first] at read
      rw [next?_prolong more first]
      dsimp only at read ⊢
      cases others : after.number count with
      | error fault =>
        rw [others] at read
        cases read
      | ok pair =>
        obtain ⟨high, last⟩ := pair
        rw [others] at read
        cases read
        rw [ih others]

theorem code_prolong {code : Code} {symbol : Nat} (read : code.read bits = .ok (symbol, rest)) :
    code.read (bits.prolong more) = .ok (symbol, rest.prolong more) := by
  induction code generalizing bits with
  | unused => cases read
  | symbol number =>
    cases read
    rfl
  | fork zero one zeroProlong oneProlong =>
    rw [Code.read] at read ⊢
    cases first : bits.next? with
    | none =>
      rw [first] at read
      cases read
    | some pair =>
      obtain ⟨bit, after⟩ := pair
      rw [first] at read
      rw [next?_prolong more first]
      cases bit with
      | false => exact zeroProlong read
      | true => exact oneProlong read

theorem expand_eq (codes : Codes) (bits : Bits) (out : Array UInt8) :
    expand codes bits out =
      match codes.literals.read bits with
      | .error fault => .error fault
      | .ok (symbol, rest) =>
        if symbol < 256 then expand codes rest (out.push symbol.toUInt8)
        else if symbol = 256 then .ok (rest, out)
        else
          match reference codes symbol rest with
          | .error fault => .error fault
          | .ok (length, distance, after) => expand codes after (copyBack distance length out) := by
  conv => lhs; rw [expand]
  split <;> rename_i read <;> rw [read]
  dsimp only
  split
  · rfl
  · split
    · rfl
    · split <;> rename_i back <;> rw [back]

theorem span_prolong {span : Option Span} {value : Nat}
    (read : Span.read span bits = .ok (value, rest)) :
    Span.read span (bits.prolong more) = .ok (value, rest.prolong more) := by
  unfold Span.read at read ⊢
  split at read
  · cases read
  · split at read
    · cases read
    · rename_i number
      cases read
      rw [number_prolong more number]

theorem reference_prolong {codes : Codes} {symbol length distance : Nat}
    (read : reference codes symbol bits = .ok (length, distance, rest)) :
    reference codes symbol (bits.prolong more) = .ok (length, distance, rest.prolong more) := by
  unfold reference at read ⊢
  split at read
  · cases read
  · rename_i first
    rw [span_prolong more first]
    dsimp only
    split at read
    · cases read
    · rename_i second
      rw [show codes.distances.read _ = _ from code_prolong more second]
      dsimp only
      split at read
      · cases read
      · rename_i third
        cases read
        rw [span_prolong more third]

theorem expand_prolong {codes : Codes} (done : expand codes bits out = .ok (rest, all)) :
    expand codes (bits.prolong more) out = .ok (rest.prolong more, all) := by
  fun_induction expand codes bits out with
  | case1 => cases done
  | case2 bits out symbol after read literal ih =>
    rw [expand_eq, show codes.literals.read _ = _ from code_prolong more read]
    dsimp only
    rw [if_pos literal]
    exact ih done
  | case3 bits out after read literal =>
    cases done
    rw [expand_eq, show codes.literals.read _ = _ from code_prolong more read]
    rfl
  | case4 => cases done
  | case5 bits out symbol after read literal going length distance last back ih =>
    rw [expand_eq, show codes.literals.read _ = _ from code_prolong more read]
    dsimp only
    rw [if_neg literal, if_neg going, reference_prolong more back]
    exact ih done

theorem lengthsAfter_prolong {code : Tree} {lengths longer : List Nat}
    (read : lengthsAfter code lengths bits = .ok (longer, rest)) :
    lengthsAfter code lengths (bits.prolong more) = .ok (longer, rest.prolong more) := by
  unfold lengthsAfter at read ⊢
  split at read
  · cases read
  · rename_i symbol after first
    rw [show code.read _ = _ from code_prolong more first]
    dsimp only at read ⊢
    -- all repetitions are read alike
    have repeated (extra base value : Nat)
        (read : (match after.number extra with
          | .error fault => .error fault
          | .ok (added, rest) => .ok (List.replicate (base + added) value ++ lengths, rest) :
            Except Fault (List Nat × Bits)) = .ok (longer, rest)) :
        (match (after.prolong more).number extra with
          | .error fault => .error fault
          | .ok (added, rest) => .ok (List.replicate (base + added) value ++ lengths, rest) :
            Except Fault (List Nat × Bits)) = .ok (longer, rest.prolong more) := by
      split at read
      · cases read
      · rename_i number
        cases read
        rw [number_prolong more number]
    split at read
    · rename_i one
      rw [if_pos one]
      cases read
      rfl
    · rename_i several
      rw [if_neg several]
      split at read
      · rename_i again
        rw [if_pos again]
        split at read
        · cases read
        · exact repeated _ _ _ read
      · rename_i zeros
        rw [if_neg zeros]
        split at read
        · rename_i few
          rw [if_pos few]
          exact repeated _ _ _ read
        · rename_i many
          rw [if_neg many]
          exact repeated _ _ _ read

theorem codeLengths_eq (code : Tree) (total : Nat) (lengths : List Nat) (bits : Bits) :
    codeLengths code total lengths bits =
      if lengths.length = total then .ok (lengths.reverse, bits)
      else if total < lengths.length then .error .corrupt
      else
        match lengthsAfter code lengths bits with
        | .error fault => .error fault
        | .ok (more, rest) => codeLengths code total more rest := by
  conv => lhs; rw [codeLengths]
  split
  · rfl
  · split
    · rfl
    · split <;> rename_i read <;> rw [read]

theorem codeLengths_prolong {code : Tree} {total : Nat} {lengths every : List Nat}
    (read : codeLengths code total lengths bits = .ok (every, rest)) :
    codeLengths code total lengths (bits.prolong more) = .ok (every, rest.prolong more) := by
  fun_induction codeLengths code total lengths bits with
  | case1 lengths bits full =>
    cases read
    rw [codeLengths_eq, if_pos full]
  | case2 => cases read
  | case3 => cases read
  | case4 lengths bits partly short longer after first ih =>
    rw [codeLengths_eq, if_neg partly, if_neg short, lengthsAfter_prolong more first]
    exact ih read

theorem numbers_prolong {width count : Nat} {values : List Nat}
    (read : numbers width count bits = .ok (values, rest)) :
    numbers width count (bits.prolong more) = .ok (values, rest.prolong more) := by
  induction count generalizing bits values with
  | zero =>
    cases read
    rfl
  | succ count ih =>
    rw [numbers] at read ⊢
    split at read
    · cases read
    · rename_i first
      rw [number_prolong more first]
      dsimp only
      split at read
      · cases read
      · rename_i others
        cases read
        rw [ih others]

theorem writtenCodes_prolong {codes : Codes} (read : writtenCodes bits = .ok (codes, rest)) :
    writtenCodes (bits.prolong more) = .ok (codes, rest.prolong more) := by
  unfold writtenCodes at read ⊢
  split at read
  · cases read
  · rename_i first
    rw [number_prolong more first]
    dsimp only at read ⊢
    split at read
    · cases read
    · rename_i few
      rw [if_neg few]
      split at read
      · cases read
      · rename_i second
        rw [numbers_prolong more second]
        dsimp only
        split at read
        · cases read
        · split at read
          · cases read
          · rename_i third
            rw [codeLengths_prolong more third]
            dsimp only
            split at read
            · cases read
              rfl
            · cases read

theorem plainBlock_prolong {bytes : List UInt8} (done : plainBlock bytes out = .ok (rest, all)) :
    plainBlock (bytes ++ more) out = .ok (rest.prolong more, all) := by
  unfold plainBlock at done
  split at done
  · rename_i low high lowCheck highCheck after
    dsimp only at done
    split at done
    · rename_i checks
      split at done
      · cases done
      · rename_i enough
        have within : low.toNat + 256 * high.toNat ≤ after.length := Nat.le_of_not_lt enough
        cases done
        simp only [plainBlock, List.cons_append]
        rw [if_pos checks, if_neg (by rw [List.length_append]; omega),
          List.drop_append_of_le_length within, List.take_append_of_le_length within]
        rfl
    · cases done
  · cases done

theorem block_prolong {kind : Nat} (done : block kind bits out = .ok (rest, all)) :
    block kind (bits.prolong more) out = .ok (rest.prolong more, all) := by
  unfold block at done ⊢
  split at done
  · exact plainBlock_prolong more done
  · split at done
    · cases done
    · exact expand_prolong more done
  · split at done
    · cases done
    · rename_i written
      rw [writtenCodes_prolong more written]
      exact expand_prolong more done
  · cases done

theorem blocks_eq (bits : Bits) (out : Array UInt8) :
    blocks bits out =
      match bits.number 3 with
      | .error fault => .error fault
      | .ok (head, rest) =>
        match block (head / 2) rest out with
        | .error fault => .error fault
        | .ok (rest, out) => if head % 2 = 1 then .ok (rest, out) else blocks rest out := by
  conv => lhs; rw [blocks]
  split <;> rename_i read <;> rw [read]
  dsimp only
  split <;> rename_i one <;> rw [one]

theorem blocks_prolong (done : blocks bits out = .ok (rest, all)) :
    blocks (bits.prolong more) out = .ok (rest.prolong more, all) := by
  fun_induction blocks bits out with
  | case1 => cases done
  | case2 => cases done
  | case3 bits out head after read next expanded one last =>
    cases done
    rw [blocks_eq, number_prolong more read]
    dsimp only
    rw [block_prolong more one]
    dsimp only
    rw [if_pos last]
  | case4 bits out head after read next expanded one last ih =>
    rw [blocks_eq, number_prolong more read]
    dsimp only
    rw [block_prolong more one]
    dsimp only
    rw [if_neg last]
    exact ih done

end Prolonged

section Appended

variable {bytes rest : List UInt8} (more : List UInt8)

theorem inflate_append {out : List UInt8} (done : inflate bytes = .ok (out, rest)) :
    inflate (bytes ++ more) = .ok (out, rest ++ more) := by
  unfold inflate at done
  split at done
  · cases done
  · rename_i after all expanded
    cases done
    have longer : blocks (Bits.start (bytes ++ more)) #[] = .ok (after.prolong more, all) :=
      blocks_prolong more expanded
    rw [inflate, longer]
    rfl

theorem skipText_append {room : Nat} (done : skipText room bytes = .ok rest) :
    skipText room (bytes ++ more) = .ok (rest ++ more) := by
  induction bytes generalizing room with
  | nil => cases done
  | cons byte bytes ih =>
    rw [skipText] at done
    rw [List.cons_append, skipText]
    split at done
    · rename_i ends
      cases done
      rw [if_pos ends]
    · rename_i inside
      rw [if_neg inside]
      split at done
      · cases done
      · rename_i roomy
        rw [if_neg roomy]
        exact ih done

theorem skipExtra_append (done : skipExtra bytes = .ok rest) :
    skipExtra (bytes ++ more) = .ok (rest ++ more) := by
  unfold skipExtra at done
  split at done
  · rename_i low high after
    dsimp only at done
    split at done
    · cases done
    · rename_i enough
      cases done
      have within : low.toNat + 256 * high.toNat ≤ after.length := Nat.le_of_not_lt enough
      simp only [skipExtra, List.cons_append]
      rw [if_neg (by rw [List.length_append]; omega), List.drop_append_of_le_length within]
  · cases done

theorem skipIf_append {present : Bool} {skip : List UInt8 → Except Fault (List UInt8)}
    (appends : ∀ bytes rest, skip bytes = .ok rest → skip (bytes ++ more) = .ok (rest ++ more))
    (done : skipIf present skip bytes = .ok rest) :
    skipIf present skip (bytes ++ more) = .ok (rest ++ more) := by
  cases present with
  | false =>
    cases done
    rfl
  | true => exact appends bytes rest done

theorem checkHeader_append (whole : List UInt8) (part : bytes.length ≤ whole.length)
    (done : checkHeader whole bytes = .ok rest) :
    checkHeader (whole ++ more) (bytes ++ more) = .ok (rest ++ more) := by
  unfold checkHeader at done
  split at done
  · rename_i low high _
    dsimp only at done
    split at done
    · rename_i checks
      cases done
      have start : (whole ++ more).length - (low :: high :: rest ++ more).length =
          whole.length - (low :: high :: rest).length := by
        rw [List.length_append, List.length_append, Nat.add_sub_add_right]
      have same : (whole ++ more).take ((whole ++ more).length -
          (low :: high :: rest ++ more).length) =
            whole.take (whole.length - (low :: high :: rest).length) := by
        rw [start, List.take_append_of_le_length (Nat.sub_le _ _)]
      change (let sum := (checksum ((whole ++ more).take ((whole ++ more).length -
          (low :: high :: rest ++ more).length))).toNat;
        if sum % 0x10000 = low.toNat + 256 * high.toNat then Except.ok (rest ++ more)
        else .error Fault.checksum) = _
      rw [same]
      exact if_pos checks
    · cases done
  · cases done

theorem header_append (done : header bytes = .ok rest) :
    header (bytes ++ more) = .ok (rest ++ more) := by
  unfold header at done
  split at done
  · rename_i first second method flags a b c d e f after
    split at done
    · cases done
    · rename_i known
      obtain ⟨extra, one, done⟩ := bind_ok _ _ _ done
      obtain ⟨name, two, done⟩ := bind_ok _ _ _ done
      obtain ⟨comment, three, done⟩ := bind_ok _ _ _ done
      have shorter : comment.length ≤ after.length :=
        calc comment.length
          _ ≤ name.length := skipIf_rest _ _ (skipText_rest _) _ _ three
          _ ≤ extra.length := skipIf_rest _ _ (skipText_rest _) _ _ two
          _ ≤ after.length := skipIf_rest _ _ skipExtra_rest _ _ one
      let whole := first :: second :: method :: flags :: a :: b :: c :: d :: e :: f :: after
      have within : comment.length ≤ whole.length := by
        simp only [whole, List.length_cons]
        omega
      simp only [List.cons_append, header]
      rw [if_neg known, skipIf_append more (fun _ _ => skipExtra_append more) one]
      change (skipIf _ _ (extra ++ more) >>= _) = _
      rw [skipIf_append more (fun _ _ => skipText_append more) two]
      change (skipIf _ _ (name ++ more) >>= _) = _
      rw [skipIf_append more (fun _ _ => skipText_append more) three]
      change skipIf _ _ (comment ++ more) = _
      unfold skipIf at done ⊢
      split at done
      · rename_i checked
        rw [if_pos checked]
        exact checkHeader_append more whole within done
      · rename_i unchecked
        cases done
        rw [if_neg unchecked]
  · cases done

theorem checkResult_append {out : List UInt8} (done : checkResult out bytes = .ok rest) :
    checkResult out (bytes ++ more) = .ok (rest ++ more) := by
  unfold checkResult at done ⊢
  split at done
  · cases done
  · rename_i enough
    have within : 8 ≤ bytes.length := Nat.le_of_not_lt enough
    rw [if_neg (by rw [List.length_append]; omega), List.take_append_of_le_length within,
      List.take_append_of_le_length (by omega), List.drop_append_of_le_length within]
    split at done
    · rename_i checks
      cases done
      rw [if_pos checks]
    · cases done

theorem member_append {out : List UInt8} (done : member bytes = .ok (out, rest)) :
    member (bytes ++ more) = .ok (out, rest ++ more) := by
  unfold member at done ⊢
  split at done
  · cases done
  · rename_i head
    rw [header_append more head]
    dsimp only
    split at done
    · cases done
    · rename_i expanded
      rw [inflate_append more expanded]
      dsimp only
      split at done
      · cases done
      · rename_i checked
        cases done
        rw [checkResult_append more checked]

end Appended

end Sitemaps.Gzip

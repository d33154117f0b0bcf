import Mathlib.Data.List.TakeWhile
import Mathlib.Tactic.Ring
import Sitemaps.Proofs.Lookups
import Sitemaps.Url.Punycode

/-!
Punycode reads back what it writes. The writer passes over the text once for each code point and
counts places; the reader, who has the characters of lower code points already, gets to the same
place by the same count.
-/

namespace Sitemaps.Url.Punycode

section Digits

variable {bias k value : Nat} {c : Char} {rest : List Char}

def IsDigit (c : Char) : Prop := ∃ d < 36, c = digitChar d

theorem digit?_digitChar {d : Nat} (small : d < 36) : digit? (digitChar d) = some d := by
  have all : ∀ d ∈ List.range 36, digit? (digitChar d) = some d := by decide
  exact all d (List.mem_range.mpr small)

theorem numberDigits_digits : ∀ c ∈ numberDigits bias k value, IsDigit c := by
  fun_induction numberDigits bias k value with
  | case1 k value t last =>
    have high : t ≤ 26 := threshold_le k bias
    simp only [List.mem_singleton, forall_eq]
    exact ⟨value, by omega, rfl⟩
  | case2 k value t more ih =>
    have low : 1 ≤ t := threshold_pos k bias
    have high : t ≤ 26 := threshold_le k bias
    have digit : (value - t) % (36 - t) < 36 - t := Nat.mod_lt _ (by omega)
    exact List.forall_mem_cons.mpr ⟨⟨t + (value - t) % (36 - t), by omega, rfl⟩, ih⟩

theorem numberDigits_ne_nil : numberDigits bias k value ≠ [] := by
  unfold numberDigits
  dsimp only
  split <;> simp

theorem number?_numberDigits : ∀ weight known : Nat,
    number? bias k weight known (numberDigits bias k value ++ rest) =
      some (known + value * weight, rest) := by
  fun_induction numberDigits bias k value with
  | case1 k value t last =>
    intro weight known
    have high := threshold_le k bias
    have read : digit? (digitChar value) = some value := digit?_digitChar (by omega)
    simp only [List.singleton_append, number?, read, Option.bind_eq_bind, Option.bind_some]
    exact if_pos last
  | case2 k value t more ih =>
    intro weight known
    have low : 1 ≤ t := threshold_pos k bias
    have high : t ≤ 26 := threshold_le k bias
    have digit : (value - t) % (36 - t) < 36 - t := Nat.mod_lt _ (by omega)
    have read : digit? (digitChar (t + (value - t) % (36 - t))) =
        some (t + (value - t) % (36 - t)) := digit?_digitChar (by omega)
    have unfinished : ¬ t + (value - t) % (36 - t) < t := by omega
    have whole : t + (value - t) % (36 - t) + (value - t) / (36 - t) * (36 - t) = value := by
      have := Nat.mod_add_div' (value - t) (36 - t)
      omega
    simp only [List.cons_append, number?, base, read, Option.bind_eq_bind, Option.bind_some]
    rw [if_neg unfinished]
    refine (ih _ _).trans ?_
    have sum : known + (t + (value - t) % (36 - t)) * weight +
        (value - t) / (36 - t) * (weight * (36 - t)) = known + value * weight := by
      calc known + (t + (value - t) % (36 - t)) * weight +
            (value - t) / (36 - t) * (weight * (36 - t))
          = known + (t + (value - t) % (36 - t) + (value - t) / (36 - t) * (36 - t)) * weight := by
            ring
        _ = known + value * weight := by rw [whole]
    exact congrArg (fun n => some (n, rest)) sum

end Digits

section Reading

variable {code bias place : Nat} {first : Bool} {out start basic inserted : List Char}
  {state : Encoder}

theorem decodeFrom_number (delta : Nat) (rest : List Char)
    (valid : (code + (place + delta) / (out.length + 1)).isValidChar) :
    decodeFrom code bias place first out (numberDigits bias base delta ++ rest) =
      decodeFrom (code + (place + delta) / (out.length + 1)) (adapt delta (out.length + 1) first)
        ((place + delta) % (out.length + 1) + 1) false
        (out.insertIdx ((place + delta) % (out.length + 1))
          (Char.ofNat (code + (place + delta) / (out.length + 1)))) rest := by
  have number : number? bias base 1 0 (numberDigits bias base delta ++ rest) =
      some (delta, rest) := by
    rw [number?_numberDigits, Nat.zero_add, Nat.mul_one]
  obtain ⟨c, tail, text⟩ : ∃ c tail, numberDigits bias base delta ++ rest = c :: tail :=
    List.exists_cons_of_ne_nil (by simp [numberDigits_ne_nil])
  rw [text] at number ⊢
  rw [decodeFrom]
  split
  next read =>
    rw [number] at read
    cases read
  next found after read =>
    rw [number] at read
    cases read
    exact if_pos valid

/-- What the writer has written leads a reader to the same characters, and the count that the writer
keeps would lead the reader on to `position`. Places are counted through all code points. -/
structure Leads (start basic : List Char) (state : Encoder) (inserted : List Char)
    (position : Nat) : Prop where
  written : state.written = inserted.length
  digits : ∃ digits code place, state.out = start ++ digits ∧ (∀ c ∈ digits, IsDigit c) ∧
    (∀ rest, decodeFrom initialCode initialBias 0 true basic (digits ++ rest) =
      decodeFrom code state.bias place state.first inserted rest) ∧
    code * (inserted.length + 1) + place + state.delta = position

theorem Leads.count {position : Nat} (leads : Leads start basic state inserted position)
    (more : Nat) :
    Leads start basic { state with delta := state.delta + more } inserted (position + more) := by
  obtain ⟨written, digits, code, place, out, plain, reads, counted⟩ := leads
  refine ⟨written, digits, code, place, out, plain, reads, ?_⟩
  show code * (inserted.length + 1) + place + (state.delta + more) = position + more
  omega

theorem Leads.insert {c : Char} {place : Nat} (inside : place ≤ inserted.length)
    (leads : Leads start basic state inserted (c.toNat * (inserted.length + 1) + place)) :
    Leads start basic
      { delta := 0
        bias := adapt state.delta (state.written + 1) state.first
        written := state.written + 1
        first := false
        out := state.out ++ numberDigits state.bias base state.delta }
      (inserted.insertIdx place c) (c.toNat * (inserted.length + 2) + (place + 1)) := by
  obtain ⟨written, digits, code, at_, out, plain, reads, counted⟩ := leads
  have room : 0 < inserted.length + 1 := Nat.succ_pos _
  have whole : code * (inserted.length + 1) + (at_ + state.delta) =
      c.toNat * (inserted.length + 1) + place := by omega
  have reached : code + (at_ + state.delta) / (inserted.length + 1) = c.toNat := by
    have quotient := congrArg (· / (inserted.length + 1)) whole
    rw [Nat.mul_comm code, Nat.mul_comm c.toNat, Nat.mul_add_div room, Nat.mul_add_div room,
      Nat.div_eq_of_lt (by omega : place < inserted.length + 1)] at quotient
    exact quotient
  have there : (at_ + state.delta) % (inserted.length + 1) = place := by
    have remainder := congrArg (· % (inserted.length + 1)) whole
    rw [Nat.mul_comm code, Nat.mul_comm c.toNat, Nat.mul_add_mod, Nat.mul_add_mod,
      Nat.mod_eq_of_lt (by omega : place < inserted.length + 1)] at remainder
    exact remainder
  have longer : (inserted.insertIdx place c).length = inserted.length + 1 :=
    List.length_insertIdx_of_le_length inside c
  refine ⟨by simp [longer, written], digits ++ numberDigits state.bias base state.delta, c.toNat,
    place + 1, by simp [out], ?_, fun rest => ?_, by simp [longer, Nat.add_assoc]⟩
  · exact List.forall_mem_append.mpr ⟨plain, numberDigits_digits⟩
  · have valid : (code + (at_ + state.delta) / (inserted.length + 1)).isValidChar := by
      rw [reached]
      exact c.valid
    rw [List.append_assoc, reads, decodeFrom_number state.delta rest valid, reached, there,
      Char.ofNat_toNat, written]

def below (code : Nat) (text : List Char) : List Char := text.filter (·.toNat < code)

theorem insertIdx_length (done rest : List Char) (c : Char) :
    (done ++ rest).insertIdx done.length c = done ++ c :: rest := by
  induction done with
  | nil => simp
  | cons first done ih => simp [ih]

theorem below_cons {c : Char} {text : List Char} :
    below code (c :: text) = if c.toNat < code then c :: below code text else below code text := by
  simp [below, List.filter_cons]

/-- One pass inserts the characters of its code point. `done` are those before the part of the text
that is left to pass over. -/
theorem Leads.pass {done text : List Char}
    (leads : Leads start basic state (done ++ below code text)
      (code * ((done ++ below code text).length + 1) + done.length)) :
    Leads start basic (text.foldl (Punycode.pass code) state) (done ++ below (code + 1) text)
      (code * ((done ++ below (code + 1) text).length + 1) +
        (done ++ below (code + 1) text).length) := by
  induction text generalizing state done with
  | nil => simpa [below] using leads
  | cons c text ih =>
    have shifted : ∀ code, done ++ [c] ++ below code text = done ++ c :: below code text := by simp
    have longer : (done ++ [c]).length = done.length + 1 := by simp
    rw [List.foldl_cons]
    rcases Nat.lt_trichotomy c.toNat code with lower | same | higher
    · have passed : Punycode.pass code state c = { state with delta := state.delta + 1 } :=
        if_pos lower
      have counted := leads.count 1
      rw [below_cons, if_pos lower, ← shifted, Nat.add_assoc, ← longer] at counted
      rw [passed, below_cons, if_pos (by omega), ← shifted]
      exact ih counted
    · subst same
      have passed : Punycode.pass c.toNat state c = _ :=
        (if_neg (Nat.lt_irrefl _)).trans (if_pos rfl)
      rw [below_cons, if_neg (Nat.lt_irrefl _)] at leads
      have inserted := leads.insert (by simp)
      have grown : (done ++ below c.toNat text).length + 2 =
          (done ++ [c] ++ below c.toNat text).length + 1 := by
        simp only [List.length_append, List.length_singleton]
        omega
      rw [insertIdx_length, ← shifted, grown, ← longer] at inserted
      rw [passed, below_cons, if_pos (by omega), ← shifted]
      exact ih inserted
    · have passed : Punycode.pass code state c = state :=
        (if_neg (by omega)).trans (if_neg (by omega))
      rw [below_cons, if_neg (by omega)] at leads
      rw [passed, below_cons, if_neg (by omega)]
      exact ih leads

/-- The code points still to come: each that is left in the text, in ascending order. -/
structure Awaits (text : List Char) (previous : Nat) (codes : List Nat) : Prop where
  ascending : codes.Pairwise (· < ·)
  later : ∀ code ∈ codes, previous ≤ code
  covers : ∀ c ∈ text, previous ≤ c.toNat → c.toNat ∈ codes

theorem Awaits.below {text : List Char} {previous : Nat} {codes : List Nat}
    (awaits : Awaits text previous (code :: codes)) : below code text = below previous text := by
  have here := awaits.later code List.mem_cons_self
  obtain ⟨least, -⟩ := List.pairwise_cons.mp awaits.ascending
  apply List.filter_congr
  intro c member
  rw [decide_eq_decide]
  constructor
  · intro lower
    by_contra reached
    rcases List.mem_cons.mp (awaits.covers c member (by omega)) with same | more
    · omega
    · have := least c.toNat more
      omega
  · omega

theorem Awaits.next {text : List Char} {previous : Nat} {codes : List Nat}
    (awaits : Awaits text previous (code :: codes)) : Awaits text (code + 1) codes := by
  have here := awaits.later code List.mem_cons_self
  obtain ⟨least, ascending⟩ := List.pairwise_cons.mp awaits.ascending
  refine ⟨ascending, least, fun c member reached => ?_⟩
  rcases List.mem_cons.mp (awaits.covers c member (by omega)) with same | more
  · omega
  · exact more

theorem Leads.passes {text : List Char} {previous : Nat} {codes : List Nat}
    (awaits : Awaits text previous codes)
    (leads : Leads start basic state (Punycode.below previous text)
      (previous * ((Punycode.below previous text).length + 1))) :
    ∃ position, Leads start basic (Punycode.passes text state previous codes) text position := by
  induction codes generalizing state previous with
  | nil =>
    have all : Punycode.below previous text = text := by
      apply List.filter_eq_self.mpr
      intro c member
      rw [decide_eq_true_iff]
      by_contra reached
      cases awaits.covers c member (by omega)
    rw [all] at leads
    exact ⟨_, leads⟩
  | cons code codes ih =>
    have here := awaits.later code List.mem_cons_self
    have counted := leads.count ((code - previous) * (state.written + 1))
    have reached : previous * ((Punycode.below previous text).length + 1) +
        (code - previous) * (state.written + 1) =
          code * ((Punycode.below previous text).length + 1) := by
      rw [leads.written, ← Nat.add_mul]
      congr 1
      omega
    rw [reached, ← awaits.below] at counted
    have passed : Leads start basic _ ([] ++ Punycode.below (code + 1) text) _ :=
      Leads.pass (by simpa using counted)
    rw [List.nil_append] at passed
    have onward : code * ((Punycode.below (code + 1) text).length + 1) +
        (Punycode.below (code + 1) text).length + 1 =
          (code + 1) * ((Punycode.below (code + 1) text).length + 1) := by ring
    have finished := passed.count 1
    rw [onward] at finished
    exact ih awaits.next finished

end Reading

section RoundTrip

variable {text digits : List Char}

theorem eraseDups_ascending {codes : List Nat} (sorted : codes.Pairwise (· ≤ ·)) :
    codes.eraseDups.Pairwise (· < ·) := by
  induction length : codes.length using Nat.strongRecOn generalizing codes with
  | ind count ih =>
    cases codes with
    | nil => simp
    | cons code codes =>
      obtain ⟨least, later⟩ := List.pairwise_cons.mp sorted
      rw [List.eraseDups_cons]
      refine List.pairwise_cons.mpr ⟨fun other member => ?_, ?_⟩
      · obtain ⟨inside, differs⟩ := List.mem_filter.mp (List.mem_eraseDups.mp member)
        have := least other inside
        simp at differs
        omega
      · have shorter : (codes.filter (!· == code)).length < count := by
          have := List.length_filter_le (!· == code) codes
          rw [← length, List.length_cons]
          omega
        exact ih _ shorter (later.filter _) rfl

theorem awaits_encode (text : List Char) : Awaits text initialCode
    (((text.map Char.toNat).filter (initialCode ≤ ·)).mergeSort.eraseDups) := by
  have listed : ∀ code,
      code ∈ ((text.map Char.toNat).filter (initialCode ≤ ·)).mergeSort.eraseDups ↔
        (∃ c ∈ text, c.toNat = code) ∧ initialCode ≤ code := by
    intro code
    rw [List.mem_eraseDups, List.mem_mergeSort, List.mem_filter, List.mem_map, decide_eq_true_iff]
  refine ⟨eraseDups_ascending ?_, fun code member => ((listed code).mp member).2,
    fun c member beyond => (listed c.toNat).mpr ⟨⟨c, member, rfl⟩, beyond⟩⟩
  have sorted : ((text.map Char.toNat).filter (initialCode ≤ ·)).mergeSort.Pairwise
      fun a b => decide (a ≤ b) = true :=
    List.pairwise_mergeSort (by simp; omega) (by simp; omega) _
  exact sorted.imp of_decide_eq_true

theorem isDigit_facts {c : Char} (digit : IsDigit c) :
    c ≠ '-' ∧ (c.isDigit ∨ c.isLower) := by
  obtain ⟨d, small, rfl⟩ := digit
  have all : ∀ d ∈ List.range 36, digitChar d ≠ '-' ∧
      ((digitChar d).isDigit ∨ (digitChar d).isLower) := by decide
  exact all d (List.mem_range.mpr small)

def lead (basic : List Char) : List Char := if basic.isEmpty then [] else basic ++ ['-']

theorem decode_lead {basic : List Char} (ascii : ∀ c ∈ basic, c.toNat < initialCode)
    (plain : ∀ c ∈ digits, IsDigit c) :
    decode (lead basic ++ digits) = decodeFrom initialCode initialBias 0 true basic digits := by
  have all : basic.all (·.toNat < initialCode) = true := by simpa using ascii
  have unbroken : ∀ c ∈ digits.reverse, (c != '-') = true := by
    intro c member
    simpa using (isDigit_facts (plain c (List.mem_reverse.mp member))).1
  unfold lead
  cases basic with
  | nil =>
    have own : (digits.reverse.takeWhile (· != '-')).reverse = digits := by
      rw [List.takeWhile_eq_self_iff.mpr unbroken, List.reverse_reverse]
    simp [decode, own]
  | cons first basic =>
    have own : (((first :: basic ++ ['-']) ++ digits).reverse.takeWhile (· != '-')).reverse =
        digits := by
      rw [List.reverse_append, List.takeWhile_append_of_pos unbroken]
      simp
    have before : ((first :: basic ++ ['-']) ++ digits).length - digits.length =
        (first :: basic ++ ['-']).length := by
      rw [List.length_append]
      omega
    simp only [List.isEmpty_cons, Bool.false_eq_true, if_false]
    unfold decode
    dsimp only
    rw [own, before, List.take_left, List.dropLast_concat, if_pos all]
    rfl

theorem encode_leads (text : List Char) : ∃ digits,
    encode text = lead (below initialCode text) ++ digits ∧ (∀ c ∈ digits, IsDigit c) ∧
      decodeFrom initialCode initialBias 0 true (below initialCode text) digits = some text := by
  have start : Leads (lead (below initialCode text)) (below initialCode text)
      ⟨0, initialBias, (below initialCode text).length, true, lead (below initialCode text)⟩
      (below initialCode text) (initialCode * ((below initialCode text).length + 1)) :=
    ⟨rfl, [], initialCode, 0, by simp, by simp, fun rest => rfl, rfl⟩
  obtain ⟨-, -, digits, code, place, out, plain, reads, -⟩ := start.passes (awaits_encode text)
  refine ⟨digits, out, plain, ?_⟩
  have last := reads []
  rw [List.append_nil] at last
  rw [last, decodeFrom]

theorem decode_encode (text : List Char) : decode (encode text) = some text := by
  obtain ⟨digits, written, plain, reads⟩ := encode_leads text
  have ascii : ∀ c ∈ below initialCode text, c.toNat < initialCode := by
    intro c member
    simpa using (List.mem_filter.mp member).2
  rw [written, decode_lead ascii plain, reads]

theorem mem_encode {c : Char} (member : c ∈ encode text) :
    (c ∈ text ∧ c.toNat < initialCode) ∨ c = '-' ∨ IsDigit c := by
  obtain ⟨digits, written, plain, -⟩ := encode_leads text
  rw [written] at member
  rcases List.mem_append.mp member with before | digit
  · unfold lead at before
    split at before
    · cases before
    · rcases List.mem_append.mp before with basic | hyphen
      · exact Or.inl (by simpa [below] using basic)
      · exact Or.inr (Or.inl (List.mem_singleton.mp hyphen))
  · exact Or.inr (Or.inr (plain c digit))

end RoundTrip

end Sitemaps.Url.Punycode

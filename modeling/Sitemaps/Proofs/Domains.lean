import Sitemaps.Proofs.Addresses
import Sitemaps.Proofs.Composition
import Sitemaps.Proofs.Insertions

/-!
A domain name in ASCII is its own ASCII form. Its labels are cut at the same dots, and an encoded
label is decoded to the text that it was encoded from, which is mapped and composed already.
-/

namespace Sitemaps.Url.Domain

open Unicode

section Dots

variable {piece text : List Char} {pieces : List (List Char)}

theorem joinWithDots_cons (rest : pieces ≠ []) :
    joinWithDots (piece :: pieces) = piece ++ '.' :: joinWithDots pieces := by
  cases pieces with
  | nil => exact absurd rfl rest
  | cons _ _ => rfl

theorem joinWithDots_eq (pieces : List (List Char)) :
    joinWithDots pieces = ['.'].intercalate pieces := by
  induction pieces with
  | nil => rfl
  | cons piece pieces ih =>
    cases pieces with
    | nil => simp [joinWithDots]
    | cons second rest =>
      rw [joinWithDots_cons (List.cons_ne_nil _ _), ih, List.intercalate_cons_cons]
      simp

theorem cutAtDots_eq (known text : List Char) : ∃ first rest, cutAt '.' text = first :: rest ∧
    cutAtDots known text = (known.reverse ++ first) :: rest := by
  induction text generalizing known with
  | nil => exact ⟨[], [], rfl, by simp [cutAtDots]⟩
  | cons c text ih =>
    by_cases dot : c = '.'
    · subst dot
      obtain ⟨first, rest, cut, dots⟩ := ih []
      exact ⟨[], first :: rest, by simp [cutAt, cut], by simp [cutAtDots, dots]⟩
    · obtain ⟨first, rest, cut, dots⟩ := ih (c :: known)
      exact ⟨c :: first, rest, by simp [cutAt, cut, dot], by simp [cutAtDots, dot, dots]⟩

theorem cutAtDots_join (filled : pieces ≠ []) (dotless : ∀ piece ∈ pieces, '.' ∉ piece) :
    cutAtDots [] (joinWithDots pieces) = pieces := by
  obtain ⟨first, rest, cut, dots⟩ := cutAtDots_eq [] (joinWithDots pieces)
  rw [joinWithDots_eq, cutAt_intercalate filled dotless] at cut
  rw [dots, cut]
  rfl

theorem exists_join (text : List Char) : ∃ pieces, pieces ≠ [] ∧ (∀ piece ∈ pieces, '.' ∉ piece) ∧
    joinWithDots pieces = text := by
  induction text with
  | nil => exact ⟨[[]], by simp, by simp, rfl⟩
  | cons c text ih =>
    obtain ⟨pieces, filled, dotless, rfl⟩ := ih
    by_cases dot : c = '.'
    · subst dot
      exact ⟨[] :: pieces, by simp, by simpa using dotless, joinWithDots_cons filled⟩
    · obtain ⟨first, rest, rfl⟩ := List.exists_cons_of_ne_nil filled
      obtain ⟨here, later⟩ := List.forall_mem_cons.mp dotless
      refine ⟨(c :: first) :: rest, by simp, ?_, ?_⟩
      · exact List.forall_mem_cons.mpr ⟨by simpa [Ne.symm dot] using here, later⟩
      · cases rest <;> rfl

theorem mem_join {c : Char} (member : piece ∈ pieces) (inside : c ∈ piece) :
    c ∈ joinWithDots pieces := by
  induction pieces with
  | nil => cases member
  | cons first pieces ih =>
    by_cases last : pieces = []
    · subst last
      rw [List.mem_singleton.mp member] at inside
      exact inside
    · rw [joinWithDots_cons last]
      rcases List.mem_cons.mp member with rfl | member
      · exact List.mem_append_left _ inside
      · exact List.mem_append_right _ (List.mem_cons_of_mem _ (ih member))

theorem of_mem_join {c : Char} (inside : c ∈ joinWithDots pieces) :
    c = '.' ∨ ∃ piece ∈ pieces, c ∈ piece := by
  induction pieces with
  | nil => cases inside
  | cons first pieces ih =>
    by_cases last : pieces = []
    · subst last
      exact Or.inr ⟨first, List.mem_singleton.mpr rfl, inside⟩
    · rw [joinWithDots_cons last] at inside
      rcases List.mem_append.mp inside with here | later
      · exact Or.inr ⟨first, List.mem_cons_self, here⟩
      · rcases List.mem_cons.mp later with dot | later
        · exact Or.inl dot
        · exact (ih later).imp_right fun ⟨piece, member, within⟩ =>
            ⟨piece, List.mem_cons_of_mem _ member, within⟩

theorem join_cutAtDots (text : List Char) :
    cutAtDots [] text ≠ [] ∧ joinWithDots (cutAtDots [] text) = text := by
  obtain ⟨pieces, filled, dotless, rfl⟩ := exists_join text
  rw [cutAtDots_join filled dotless]
  exact ⟨filled, rfl⟩

theorem composed_join : composed (joinWithDots pieces) = joinWithDots (pieces.map composed) := by
  induction pieces with
  | nil => rfl
  | cons piece pieces ih =>
    by_cases last : pieces = []
    · subst last
      rfl
    · rw [joinWithDots_cons last, composed_dot, ih, List.map_cons,
        joinWithDots_cons (by simpa using last)]

theorem settled_join (settled : Settled (joinWithDots pieces)) :
    ∀ piece ∈ pieces, Settled piece := by
  induction pieces with
  | nil => nofun
  | cons piece pieces ih =>
    by_cases last : pieces = []
    · subst last
      intro other only
      rw [List.mem_singleton.mp only]
      exact settled
    · rw [joinWithDots_cons last] at settled
      obtain ⟨first, rest, -⟩ := List.isChain_append.mp settled.ordered
      obtain ⟨here, dotted⟩ := List.forall_mem_append.mp settled.whole
      obtain ⟨-, later⟩ := List.forall_mem_cons.mp dotted
      exact List.forall_mem_cons.mpr ⟨⟨first, here⟩, ih ⟨rest.tail, later⟩⟩

theorem cutAtDots_canonical (text : List Char) : ∀ piece ∈ cutAtDots [] (canonical text),
    '.' ∉ piece ∧ canonical piece = piece := by
  obtain ⟨pieces, filled, dotless, joined⟩ := exists_join (decomposed text)
  have composedDotless : ∀ piece ∈ pieces.map composed, '.' ∉ piece := by
    intro piece member
    obtain ⟨origin, inside, rfl⟩ := List.mem_map.mp member
    exact composed_dotless (dotless origin inside)
  have cut : cutAtDots [] (canonical text) = pieces.map composed := by
    rw [canonical, ← joined, composed_join, cutAtDots_join (by simpa using filled) composedDotless]
  have settled : Settled (joinWithDots pieces) := joined ▸ decomposed_settled text
  rw [cut]
  intro piece member
  refine ⟨composedDotless piece member, ?_⟩
  obtain ⟨origin, inside, rfl⟩ := List.mem_map.mp member
  exact canonical_composed (settled_join settled origin inside)

end Dots

section Labels

variable {c : Char} {piece : List Char} {pieces : List (List Char)} {label : Label}

/-- A character that a host in ASCII may hold, and that stays as it is there. -/
structure Plain (c : Char) : Prop where
  ascii : c.toNat < 0x80
  allowed : isForbidden c = false
  steady : Steady c

def marks : List Char := '.' :: '-' :: (List.range 36).map Punycode.digitChar

theorem marks_fit : (marks.all fun c => c.toNat < 0x80 && !isForbidden c &&
    stayingBits.testBit c.toNat && !(c.isDigit && isRightToLeft c)) = true := by decide +kernel

theorem plain_marks : ∀ c ∈ marks, Plain c := by
  intro c member
  have facts := List.all_eq_true.mp marks_fit c member
  simp only [Bool.and_eq_true, decide_eq_true_iff, Bool.not_eq_true'] at facts
  exact ⟨facts.1.1.1, facts.1.1.2, facts.1.2⟩

theorem plain_digit (digit : Punycode.IsDigit c) : Plain c ∧ c ≠ '.' := by
  have dotless : ∀ d ∈ List.range 36, Punycode.digitChar d ≠ '.' := by decide
  obtain ⟨d, small, rfl⟩ := digit
  have listed : d ∈ List.range 36 := List.mem_range.mpr small
  refine ⟨plain_marks _ ?_, dotless d listed⟩
  exact List.mem_cons_of_mem _ (List.mem_cons_of_mem _ (List.mem_map_of_mem listed))

theorem isDigit_mark (digit : c.isDigit = true) : c ≠ '.' ∧ c ∈ marks := by
  have bounds : 48 ≤ c.toNat ∧ c.toNat ≤ 57 := by
    simpa [Char.isDigit, UInt32.le_iff_toNat_le] using digit
  have same : c = Punycode.digitChar (c.toNat - 22) := by
    have code : 22 + (c.toNat - 22) = c.toNat := by omega
    rw [Punycode.digitChar, if_neg (by omega), code, Char.ofNat_toNat]
  constructor
  · rintro rfl
    cases digit
  · refine List.mem_cons_of_mem _ (List.mem_cons_of_mem _ (List.mem_map.mpr ⟨_, ?_, same.symm⟩))
    exact List.mem_range.mpr (by omega)

theorem isDigit_direction (digit : c.isDigit = true) : isRightToLeft c = false := by
  have facts := List.all_eq_true.mp marks_fit c (isDigit_mark digit).2
  simp only [digit, Bool.true_and, Bool.and_eq_true, Bool.not_eq_true'] at facts
  exact facts.2

theorem plain_acePrefix : ∀ c ∈ acePrefix, Plain c ∧ c ≠ '.' := by
  have all : (acePrefix.all fun c => marks.contains c && c != '.') = true := by decide
  intro c member
  have facts := List.all_eq_true.mp all c member
  simp only [Bool.and_eq_true, List.contains_iff_mem, bne_iff_ne] at facts
  exact ⟨plain_marks c facts.1, facts.2⟩

structure Piece (piece : List Char) : Prop where
  dotless : '.' ∉ piece
  canonical : canonical piece = piece
  steady : ∀ c ∈ piece, Steady c
  allowed : ∀ c ∈ piece, c.toNat < 0x80 → isForbidden c = false

theorem isAscii_iff : piece.all isAscii = true ↔ ∀ c ∈ piece, c.toNat < 0x80 := by
  simp [isAscii]

theorem Piece.plain (fit : Piece piece) (ascii : piece.all isAscii = true) :
    ∀ c ∈ piece, Plain c ∧ c ≠ '.' := by
  intro c member
  have low := isAscii_iff.mp ascii c member
  exact ⟨⟨low, fit.allowed c member low, fit.steady c member⟩,
    fun dot => fit.dotless (dot ▸ member)⟩

theorem Piece.plain_encode (fit : Piece piece) :
    ∀ c ∈ Punycode.encode piece, Plain c ∧ c ≠ '.' := by
  intro c member
  rcases Punycode.mem_encode member with ⟨inside, low⟩ | rfl | digit
  · exact ⟨⟨low, fit.allowed c inside low, fit.steady c inside⟩,
      fun dot => fit.dotless (dot ▸ inside)⟩
  · exact plain_acePrefix '-' (by decide)
  · exact plain_digit digit

/-- What the text of an encoded label has to be. -/
structure Foreign (text : List Char) : Prop where
  beyond : text.all isAscii = false
  bare : acePrefix.isPrefixOf text = false
  kept : (text.all fun c => stays c && c != '.') = true
  canonical : Unicode.canonical text = text
  fits : labelFits text = true

theorem decodedLabel_iff {written : List Char} : decodedLabel written = some label ↔
    ∃ text, Punycode.decode (written.drop acePrefix.length) = some text ∧ Foreign text ∧
      label = ⟨text, written⟩ := by
  unfold decodedLabel
  cases decoded : Punycode.decode (written.drop acePrefix.length) with
  | none => simp
  | some text =>
    simp only [Option.bind_eq_bind, Option.bind_some, Option.some.injEq, exists_eq_left']
    constructor
    · intro read
      split at read
      · cases read
      next beyond =>
        split at read
        · cases read
        next bare =>
          split at read
          · cases read
          next kept =>
            split at read
            · cases read
            next canonical =>
              split at read
              next fits =>
                cases read
                exact ⟨⟨by simpa using beyond, (Bool.not_eq_true _).mp bare, by simpa using kept,
                  by simpa using canonical, fits⟩, rfl⟩
              · cases read
    · rintro ⟨fit, rfl⟩
      simp only [fit.beyond, fit.bare, fit.kept, fit.canonical, fit.fits]
      simp

theorem label?_written (fit : Piece piece) (read : label? piece = some label) :
    label? label.written = some label ∧ ∀ c ∈ label.written, Plain c ∧ c ≠ '.' := by
  have again := read
  unfold label? at read
  split at read
  next encoded =>
    split at read
    next ascii =>
      obtain ⟨text, -, -, rfl⟩ := decodedLabel_iff.mp read
      exact ⟨again, fit.plain ascii⟩
    next => cases read
  next bare =>
    split at read
    next ascii =>
      cases read
      exact ⟨again, fit.plain ascii⟩
    next beyond =>
      split at read
      next fits =>
        cases read
        have plain : ∀ c ∈ acePrefix ++ Punycode.encode piece, Plain c ∧ c ≠ '.' :=
          List.forall_mem_append.mpr ⟨plain_acePrefix, fit.plain_encode⟩
        have ascii : (acePrefix ++ Punycode.encode piece).all isAscii = true :=
          isAscii_iff.mpr fun c member => (plain c member).1.ascii
        have marked : acePrefix.isPrefixOf (acePrefix ++ Punycode.encode piece) = true := by
          simp
        have kept : (piece.all fun c => stays c && c != '.') = true := by
          simp only [List.all_eq_true, Bool.and_eq_true, bne_iff_ne]
          exact fun c member => ⟨stays_iff.mpr (fit.steady c member),
            fun dot => fit.dotless (dot ▸ member)⟩
        have foreign : Foreign piece :=
          ⟨by simpa using beyond, (Bool.not_eq_true _).mp bare, kept, fit.canonical, fits⟩
        refine ⟨?_, plain⟩
        rw [label?, if_pos marked, if_pos ascii, decodedLabel_iff]
        exact ⟨piece, Punycode.decode_encode piece, foreign, rfl⟩
      next => cases read

theorem mapM_written (fit : ∀ piece ∈ pieces, Piece piece) {labels : List Label}
    (read : pieces.mapM label? = some labels) :
    (pieces ≠ [] → labels ≠ []) ∧ (labels.map (·.written)).mapM label? = some labels ∧
      ∀ written ∈ labels.map (·.written), ∀ c ∈ written, Plain c ∧ c ≠ '.' := by
  induction pieces generalizing labels with
  | nil =>
    cases read
    exact ⟨fun filled => absurd rfl filled, rfl, nofun⟩
  | cons piece pieces ih =>
    obtain ⟨here, later⟩ := List.forall_mem_cons.mp fit
    rw [List.mapM_cons] at read
    simp only [Option.bind_eq_bind, Option.bind_eq_some_iff, Option.pure_def,
      Option.some.injEq] at read
    obtain ⟨label, first, rest, onward, rfl⟩ := read
    obtain ⟨same, plain⟩ := label?_written here first
    obtain ⟨-, others, plains⟩ := ih later onward
    refine ⟨fun _ => List.cons_ne_nil _ _, ?_, List.forall_mem_cons.mpr ⟨plain, plains⟩⟩
    simp [List.mapM_cons, same, others]

theorem toAscii_plain {labels : List Label} (filled : labels ≠ [])
    (again : (labels.map (·.written)).mapM label? = some labels)
    (plain : ∀ written ∈ labels.map (·.written), ∀ c ∈ written, Plain c ∧ c ≠ '.')
    (directed : ¬ (labels.any (·.text.any isRightToLeft) &&
      !labels.all (directionFits ·.text)) = true) :
    toAscii (joinWithDots (labels.map (·.written))) =
        some (joinWithDots (labels.map (·.written))) ∧
      ∀ c ∈ joinWithDots (labels.map (·.written)), Plain c := by
  have each : ∀ c ∈ joinWithDots (labels.map (·.written)), Plain c := by
    intro c member
    rcases of_mem_join member with rfl | ⟨written, listed, within⟩
    · exact plain_marks '.' List.mem_cons_self
    · exact (plain written listed c within).1
  have cut : cutAtDots [] (joinWithDots (labels.map (·.written))) = labels.map (·.written) :=
    cutAtDots_join (by simpa using filled) fun written listed dot =>
      (plain written listed '.' dot).2 rfl
  have same : canonical (joinWithDots (labels.map (·.written))) =
      joinWithDots (labels.map (·.written)) :=
    canonical_ascii fun c member => (each c member).ascii
  have allowed : ¬ (joinWithDots (labels.map (·.written))).any
      (fun c => isAscii c && isForbidden c) = true := by
    rw [List.any_eq_true]
    rintro ⟨c, member, forbidden⟩
    rw [(each c member).allowed, Bool.and_false] at forbidden
    cases forbidden
  refine ⟨?_, each⟩
  unfold toAscii
  rw [mapped_self fun c member => (each c member).steady]
  simp only [Option.bind_eq_bind, Option.bind_some, same]
  rw [if_neg allowed]
  simp only [Option.bind_some, cut, again]
  rw [if_neg directed]

/-- The ASCII form of a name is a name with that ASCII form, of characters that hosts may hold. -/
theorem toAscii_self {name out : List Char} (read : toAscii name = some out) :
    toAscii out = some out ∧ ∀ c ∈ out, Plain c := by
  unfold toAscii at read
  simp only [Option.bind_eq_bind, Option.bind_eq_some_iff] at read
  obtain ⟨text, mapped, read⟩ := read
  split at read
  · cases read
  next allowed =>
    simp only [Option.bind_eq_some_iff] at read
    obtain ⟨labels, cut, read⟩ := read
    have steady : ∀ c ∈ canonical text, Steady c := canonical_steady (mapped_steady mapped)
    obtain ⟨filled, joined⟩ := join_cutAtDots (canonical text)
    have fit : ∀ piece ∈ cutAtDots [] (canonical text), Piece piece := by
      intro piece member
      obtain ⟨dotless, same⟩ := cutAtDots_canonical text piece member
      have inside : ∀ c ∈ piece, c ∈ canonical text := fun c within =>
        joined ▸ mem_join member within
      refine ⟨dotless, same, fun c within => steady c (inside c within), fun c within low => ?_⟩
      by_contra forbidden
      apply allowed
      rw [List.any_eq_true]
      exact ⟨c, inside c within, by simpa [isAscii, low] using forbidden⟩
    obtain ⟨labelled, again, plain⟩ := mapM_written fit cut
    split at read
    · cases read
    next directed =>
      cases read
      exact toAscii_plain (labelled filled) again plain directed

end Labels

end Sitemaps.Url.Domain

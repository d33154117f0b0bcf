import Sitemaps.Proofs.Markup

/-!
How tokens are spelled. A tag is a name, what follows the name from some white space on, and
the marks around them; whatever is read as a token is spelled so, and is read the same in front of
anything else.
-/

namespace Sitemaps.Xml

section Quotes

/-- The quote open after one more byte of a tag; none at all after the `>` that ends the tag. -/
def quoteStep (quote : Option UInt8) (b : UInt8) : Option (Option UInt8) :=
  match quote with
  | none => if b == 0x3E then none else some (if b == 0x22 || b == 0x27 then some b else none)
  | some mark => some (if b == mark then none else some mark)

/-- Each quote is closed, and no `>` stands outside quotes. -/
def Paired (content : List UInt8) : Prop := content.foldlM quoteStep none = some none

instance (content : List UInt8) : Decidable (Paired content) :=
  inferInstanceAs (Decidable (_ = _))

variable {quote inner : Option UInt8} {read content bytes rest first second : List UInt8}

theorem cutTag_cons (quote : Option UInt8) (read : List UInt8) (b : UInt8) (rest : List UInt8) :
    cutTag quote read (b :: rest) =
      match quoteStep quote b with
      | none => some (read.reverse, rest)
      | some quote => cutTag quote (b :: read) rest := by
  cases quote with
  | none =>
    rw [cutTag, quoteStep]
    split <;> rfl
  | some mark => rfl

theorem cutTag_run (run : content.foldlM quoteStep quote = some inner) (read rest : List UInt8) :
    cutTag quote read (content ++ rest) = cutTag inner (content.reverse ++ read) rest := by
  induction content generalizing quote read with
  | nil =>
    cases run
    rfl
  | cons b content ih =>
    rw [List.foldlM_cons] at run
    rw [List.cons_append, cutTag_cons]
    cases step : quoteStep quote b with
    | none => simp [step] at run
    | some next =>
      rw [step] at run
      dsimp only
      rw [ih run, List.reverse_cons, List.append_assoc]
      rfl

theorem cutTag_split (cut : cutTag quote read bytes = some (content, rest)) :
    ∃ inner, content = read.reverse ++ inner ∧ bytes = inner ++ 0x3E :: rest ∧
      inner.foldlM quoteStep quote = some none := by
  induction bytes generalizing quote read with
  | nil => cases cut
  | cons b bytes ih =>
    rw [cutTag_cons] at cut
    cases step : quoteStep quote b with
    | none =>
      rw [step] at cut
      cases cut
      cases quote with
      | none =>
        have closes : b = 0x3E := by
          dsimp only [quoteStep] at step
          split at step
          · rename_i mark
            exact eq_of_beq mark
          · cases step
        exact ⟨[], (List.append_nil _).symm, by rw [closes]; rfl, rfl⟩
      | some mark => cases step
    | some next =>
      rw [step] at cut
      obtain ⟨inner, rfl, rfl, run⟩ := ih cut
      refine ⟨b :: inner, by simp, rfl, ?_⟩
      rw [List.foldlM_cons, step]
      exact run

theorem cutTag_iff : cutTag none [] bytes = some (content, rest) ↔
    bytes = content ++ 0x3E :: rest ∧ Paired content := by
  constructor
  · intro cut
    obtain ⟨inner, rfl, rfl, run⟩ := cutTag_split cut
    exact ⟨rfl, run⟩
  · rintro ⟨rfl, paired⟩
    rw [cutTag_run paired, cutTag_cons]
    simp [quoteStep]

theorem Paired.append (one : Paired first) (two : Paired second) : Paired (first ++ second) := by
  unfold Paired at one two ⊢
  rw [List.foldlM_append, one]
  exact two

theorem Paired.right (whole : Paired (first ++ second)) (one : Paired first) : Paired second := by
  unfold Paired at one whole ⊢
  rw [List.foldlM_append, one] at whole
  exact whole

theorem quoted_run {mark : UInt8} (other : mark ∉ content) :
    content.foldlM quoteStep (some mark) = some (some mark) := by
  induction content with
  | nil => rfl
  | cons c content ih =>
    have differs : c ≠ mark := fun same => other (same ▸ List.mem_cons_self)
    have step : quoteStep (some mark) c = some (some mark) := by simp [quoteStep, differs]
    rw [List.foldlM_cons, step]
    exact ih fun member => other (List.mem_cons_of_mem c member)

def Quoting (quote : Option UInt8) : Prop := ∀ mark ∈ quote, mark = 0x22 ∨ mark = 0x27

theorem Quoting.step {b : UInt8} (before : Quoting quote) (step : quoteStep quote b = some inner) :
    Quoting inner := by
  intro mark member
  cases quote with
  | none =>
    dsimp only [quoteStep] at step
    split at step
    · cases step
    · split at step
      · rename_i opens
        cases step
        cases member
        simpa using opens
      · cases step
        cases member
  | some other =>
    dsimp only [quoteStep] at step
    split at step
    · cases step
      cases member
    · cases step
      exact before mark member

theorem Quoting.run (before : Quoting quote) (run : content.foldlM quoteStep quote = some inner) :
    Quoting inner := by
  induction content generalizing quote with
  | nil =>
    cases run
    exact before
  | cons b content ih =>
    rw [List.foldlM_cons] at run
    cases step : quoteStep quote b with
    | none => simp [step] at run
    | some next =>
      rw [step] at run
      exact ih (before.step step) run

theorem Paired.left (whole : Paired (first ++ second))
    (unquoted : ∀ c ∈ second, c ≠ 0x22 ∧ c ≠ 0x27) : Paired first := by
  unfold Paired at whole ⊢
  rw [List.foldlM_append] at whole
  cases run : first.foldlM quoteStep none with
  | none => simp [run] at whole
  | some inner =>
    cases inner with
    | none => rfl
    | some mark =>
      have closed : Quoting none := nofun
      have quote := closed.run run mark rfl
      have stays : second.foldlM quoteStep (some mark) = some (some mark) := by
        apply quoted_run
        intro member
        rcases quote with rfl | rfl
        · exact (unquoted _ member).1 rfl
        · exact (unquoted _ member).2 rfl
      rw [run] at whole
      cases stays.symm.trans whole

theorem paired_bare (bare : ∀ c ∈ content, c ≠ 0x22 ∧ c ≠ 0x27 ∧ c ≠ 0x3E) : Paired content := by
  have cut : cutTag none [] (content ++ [0x3E]) = cutTag none (content.reverse ++ []) [0x3E] :=
    cutTag_bare [0x3E] bare
  rw [cutTag_cons] at cut
  have ended : cutTag none [] (content ++ [0x3E]) = some (content, []) := by
    simpa [quoteStep] using cut
  exact (cutTag_iff.mp ended).2

theorem paired_quoted {mark : UInt8} (quotes : mark = 0x22 ∨ mark = 0x27)
    (other : mark ∉ content) : Paired (mark :: content ++ [mark]) := by
  have opens : quoteStep none mark = some (some mark) := by
    rcases quotes with rfl | rfl <;> rfl
  have within := quoted_run other
  have closes : quoteStep (some mark) mark = some none := by simp [quoteStep]
  unfold Paired
  rw [List.cons_append, List.foldlM_cons, opens, Option.bind_eq_bind, Option.bind_some,
    List.foldlM_append, within, Option.bind_eq_bind, Option.bind_some, List.foldlM_cons, closes]
  rfl

end Quotes

section Tags

/-- A name with what follows it in a tag: nothing, or something that starts with white space. -/
structure Labels (name trailing : List UInt8) : Prop where
  unspaced : ∀ b ∈ name, isSpace b = false
  spaced : ∀ b ∈ trailing.head?, isSpace b = true
  paired : Paired (name ++ trailing)
  plain : ∀ b ∈ name.head?, b ≠ 0x21 ∧ b ≠ 0x2F ∧ b ≠ 0x3F

structure Opens (name trailing : List UInt8) : Prop extends Labels name trailing where
  unslashed : (name ++ trailing).getLast? ≠ some 0x2F

structure Stands (name trailing : List UInt8) : Prop extends Labels name trailing where
  filled : name ++ trailing ≠ []

structure Closes (name space : List UInt8) : Prop where
  unspaced : ∀ b ∈ name, isSpace b = false
  paired : Paired name
  white : ∀ b ∈ space, isSpace b = true
  named : name = [] → space = []

theorem head_all {bytes : List UInt8} {check : UInt8 → Bool} :
    bytes.head?.all check = true ↔ ∀ b ∈ bytes.head?, check b = true := by
  cases bytes <;> simp

instance (name trailing : List UInt8) : Decidable (Labels name trailing) :=
  decidable_of_iff (name.all (!isSpace ·) = true ∧ trailing.head?.all isSpace = true ∧
      Paired (name ++ trailing) ∧
      name.head?.all (fun b => b != 0x21 && (b != 0x2F && b != 0x3F)) = true) <| by
    constructor
    · rintro ⟨unspaced, spaced, paired, plain⟩
      refine ⟨by simpa using unspaced, head_all.mp spaced, paired, ?_⟩
      simpa using head_all.mp plain
    · rintro ⟨unspaced, spaced, paired, plain⟩
      refine ⟨by simpa using unspaced, head_all.mpr spaced, paired, head_all.mpr ?_⟩
      simpa using plain

instance (name trailing : List UInt8) : Decidable (Opens name trailing) :=
  decidable_of_iff (Labels name trailing ∧ (name ++ trailing).getLast? ≠ some 0x2F)
    ⟨fun ⟨labels, unslashed⟩ => ⟨labels, unslashed⟩, fun opens => ⟨opens.toLabels, opens.unslashed⟩⟩

instance (name trailing : List UInt8) : Decidable (Stands name trailing) :=
  decidable_of_iff (Labels name trailing ∧ name ++ trailing ≠ [])
    ⟨fun ⟨labels, filled⟩ => ⟨labels, filled⟩, fun stands => ⟨stands.toLabels, stands.filled⟩⟩

instance (name space : List UInt8) : Decidable (Closes name space) :=
  decidable_of_iff (name.all (!isSpace ·) = true ∧ Paired name ∧ space.all isSpace = true ∧
      (name.isEmpty = true → space = [])) <| by
    constructor
    · rintro ⟨unspaced, paired, white, named⟩
      exact ⟨by simpa using unspaced, paired, by simpa using white, by simpa using named⟩
    · rintro ⟨unspaced, paired, white, named⟩
      exact ⟨by simpa using unspaced, paired, by simpa using white, by simpa using named⟩

variable {name trailing space content bytes rest : List UInt8}

theorem Labels.nameOf (labels : Labels name trailing) : nameOf (name ++ trailing) = name := by
  rw [Xml.nameOf, List.takeWhile_append_of_pos fun b member => by
    rw [labels.unspaced b member]; rfl]
  cases trailing with
  | nil => rw [List.takeWhile_nil, List.append_nil]
  | cons b trailing => simp [labels.spaced b rfl]

theorem nameOf_labels (paired : Paired content)
    (plain : ∀ b ∈ content.head?, b ≠ 0x21 ∧ b ≠ 0x2F ∧ b ≠ 0x3F) :
    ∃ trailing, content = nameOf content ++ trailing ∧ Labels (nameOf content) trailing := by
  have whole : nameOf content ++ content.dropWhile (fun b => !isSpace b) = content :=
    List.takeWhile_append_dropWhile
  refine ⟨content.dropWhile fun b => !isSpace b, whole.symm, ?_, ?_, by rwa [whole], ?_⟩
  · intro b member
    have within := List.all_eq_true.mp List.all_takeWhile b member
    simpa using within
  · intro b front
    have stopped := List.head?_dropWhile_not (fun b => !isSpace b) content
    rw [front] at stopped
    simpa using stopped
  · intro b front
    rw [← whole] at plain
    exact plain b (by rw [List.head?_append, front]; rfl)

theorem white_other {b x : UInt8} (white : isSpace b = true) (other : isSpace x = false) :
    b ≠ x := by
  intro same
  rw [same, other] at white
  cases white

theorem Labels.front (labels : Labels name trailing) :
    ∀ b ∈ (name ++ trailing).head?, b ≠ 0x21 ∧ b ≠ 0x2F ∧ b ≠ 0x3F := by
  cases name with
  | nil =>
    intro b front
    have white := labels.spaced b front
    exact ⟨white_other white rfl, white_other white rfl, white_other white rfl⟩
  | cons b name => exact labels.plain

def startTag (name trailing : List UInt8) : List UInt8 := 0x3C :: (name ++ trailing) ++ [0x3E]

def singleTag (name trailing : List UInt8) : List UInt8 :=
  0x3C :: (name ++ trailing) ++ [0x2F, 0x3E]

def endTag (name space : List UInt8) : List UInt8 := 0x3C :: 0x2F :: (name ++ space) ++ [0x3E]

/-- The bytes are read as the token, whatever follows them. -/
def Token.SpelledBy (token : Token) (markup : List UInt8) : Prop :=
  ∀ rest, Token.next none (markup ++ rest) = .ok (some (token, rest))

theorem ofMarkup_plain (plain : ∀ b ∈ bytes.head?, b ≠ 0x21 ∧ b ≠ 0x2F ∧ b ≠ 0x3F)
    (some : bytes ≠ []) : Token.ofMarkup none bytes =
      cutWith none .tag (cutTag none [] bytes) (fun content => .ok (openingToken content)) := by
  cases bytes with
  | nil => exact absurd rfl some
  | cons first tail =>
    obtain ⟨bang, slash, mark⟩ := plain first rfl
    simp [Token.ofMarkup, bang, slash, mark]

theorem next_tag (paired : Paired content)
    (plain : ∀ b ∈ content.head?, b ≠ 0x21 ∧ b ≠ 0x2F ∧ b ≠ 0x3F) :
    (openingToken content).SpelledBy (0x3C :: content ++ [0x3E]) := by
  intro rest
  have whole : 0x3C :: content ++ [0x3E] ++ rest = 0x3C :: (content ++ 0x3E :: rest) := by simp
  rw [whole]
  refine cutWith_found _ content (ofMarkup_plain ?_ (by simp)) (cutTag_iff.mpr ⟨rfl, paired⟩) rfl
  intro b front
  cases content with
  | nil =>
    cases front
    decide
  | cons first content => exact plain b front

theorem Opens.spells (opens : Opens name trailing) :
    (Token.opening name).SpelledBy (startTag name trailing) := by
  have token : openingToken (name ++ trailing) = .opening name := by
    rw [openingToken, if_neg (by simpa using opens.unslashed), opens.nameOf]
  rw [← token]
  exact next_tag opens.paired opens.front

theorem Stands.spells (stands : Stands name trailing) :
    (Token.single name).SpelledBy (singleTag name trailing) := by
  have token : openingToken (name ++ trailing ++ [0x2F]) = .single name := by
    rw [openingToken, List.getLast?_concat, if_pos (beq_self_eq_true _),
      List.dropLast_concat, stands.nameOf]
  have whole : singleTag name trailing = 0x3C :: (name ++ trailing ++ [0x2F]) ++ [0x3E] := by
    simp [singleTag]
  rw [← token, whole]
  apply next_tag
  · exact stands.paired.append (by decide)
  · intro b front
    cases inside : name ++ trailing with
    | nil => exact absurd inside stands.filled
    | cons first others =>
      rw [inside] at front
      exact stands.front b (by rw [inside]; exact front)

theorem next_endTag (paired : Paired content) :
    (closingToken content).SpelledBy (0x3C :: 0x2F :: content ++ [0x3E]) := by
  intro rest
  have whole : 0x3C :: 0x2F :: content ++ [0x3E] ++ rest =
      0x3C :: 0x2F :: (content ++ 0x3E :: rest) := by simp
  rw [whole]
  exact cutWith_found (fun content => .ok (closingToken content)) content rfl
    (cutTag_iff.mpr ⟨rfl, paired⟩) rfl

theorem Closes.token (closes : Closes name space) :
    closingToken (name ++ space) = .closing name := by
  have stripped : ((name ++ space).reverse.dropWhile isSpace).reverse = name := by
    rw [List.reverse_append, List.dropWhile_append_of_pos fun b member =>
      closes.white b (List.mem_reverse.mp member)]
    cases backwards : name.reverse with
    | nil => rw [List.dropWhile_nil, ← backwards, List.reverse_reverse]
    | cons last letters =>
      have member : last ∈ name := List.mem_reverse.mp (backwards ▸ List.mem_cons_self)
      rw [List.dropWhile_cons_of_neg (by simp [closes.unspaced last member]), ← backwards,
        List.reverse_reverse]
  unfold closingToken
  rw [stripped]
  cases name with
  | nil => rw [closes.named rfl]; rfl
  | cons b name => rfl

theorem Closes.spells (closes : Closes name space) :
    (Token.closing name).SpelledBy (endTag name space) := by
  rw [← closes.token]
  apply next_endTag
  refine closes.paired.append (paired_bare fun b member => ?_)
  have white := closes.white b member
  exact ⟨white_other white rfl, white_other white rfl, white_other white rfl⟩

theorem closingToken_closes (paired : Paired content) (unspaced : ∀ b ∈ name, isSpace b = false)
    (named : closingToken content = .closing name) :
    ∃ space, content = name ++ space ∧ Closes name space := by
  let space := (content.reverse.takeWhile isSpace).reverse
  let stripped := (content.reverse.dropWhile isSpace).reverse
  have whole : content = stripped ++ space := by
    rw [← List.reverse_append, List.takeWhile_append_dropWhile, List.reverse_reverse]
  have white : ∀ b ∈ space, isSpace b = true := fun b member =>
    List.all_eq_true.mp List.all_takeWhile b (List.mem_reverse.mp member)
  have named : (if stripped.isEmpty then content else stripped) = name := by
    injection named
  cases bare : stripped with
  | nil =>
    rw [bare] at named whole
    have same : content = name := named
    have none : content = [] := by
      cases inside : content with
      | nil => rfl
      | cons b others =>
        have member : b ∈ content := inside ▸ List.mem_cons_self
        have spaced : isSpace b = true := white b (by rw [whole] at member; exact member)
        rw [unspaced b (same ▸ member)] at spaced
        cases spaced
    refine ⟨[], by rw [same, List.append_nil], unspaced, ?_, nofun, fun _ => rfl⟩
    rwa [← same]
  | cons b others =>
    rw [bare] at named whole
    have same : b :: others = name := named
    rw [same] at whole
    have unquoted : ∀ c ∈ space, c ≠ 0x22 ∧ c ≠ 0x27 := fun c member =>
      ⟨white_other (white c member) rfl, white_other (white c member) rfl⟩
    refine ⟨space, whole, unspaced, ?_, white, fun none => ?_⟩
    · rw [whole] at paired
      exact paired.left unquoted
    · rw [none] at same
      cases same

end Tags

section Fronts

variable {ends : List UInt8 → UInt8 → Bool} {depth : Nat} {markup : Markup} {token : Token}
  {read bytes content rest : List UInt8}

/-- A way to cut looks no further than where it cuts. -/
def Local (cut : List UInt8 → Option Cut) : Prop :=
  ∀ bytes content rest, cut bytes = some (content, rest) →
    ∃ front, bytes = front ++ rest ∧ ∀ more, cut (front ++ more) = some (content, more)

theorem cutAt_local (ends : List UInt8 → UInt8 → Bool) (read : List UInt8) :
    Local (cutAt ends read) := by
  intro bytes content rest cut
  induction bytes generalizing read with
  | nil => cases cut
  | cons b bytes ih =>
    rw [cutAt] at cut
    split at cut
    · rename_i closes
      cases cut
      refine ⟨[b], rfl, fun more => ?_⟩
      rw [List.singleton_append, cutAt, if_pos closes]
    · rename_i inside
      obtain ⟨front, rfl, onward⟩ := ih (b :: read) cut
      refine ⟨b :: front, rfl, fun more => ?_⟩
      rw [List.cons_append, cutAt, if_neg inside, onward]

theorem cutCData_local (read : List UInt8) : Local (cutCData read) := by
  intro bytes content rest
  simp only [cutCData_eq]
  exact cutAt_local _ read bytes content rest

theorem cutComment_local (read : List UInt8) : Local (cutComment read) := by
  intro bytes content rest
  simp only [cutComment_eq]
  exact cutAt_local _ read bytes content rest

theorem cutInstruction_local (read : List UInt8) : Local (cutInstruction read) := by
  intro bytes content rest
  simp only [cutInstruction_eq]
  exact cutAt_local _ read bytes content rest

theorem cutDoctype_local (depth : Nat) (read : List UInt8) : Local (cutDoctype depth read) := by
  intro bytes content rest cut
  induction bytes generalizing depth read with
  | nil => cases cut
  | cons b bytes ih =>
    rw [cutDoctype] at cut
    split at cut
    · rename_i closes
      cases cut
      refine ⟨[b], rfl, fun more => ?_⟩
      rw [List.singleton_append, cutDoctype, if_pos closes]
    · rename_i inside
      obtain ⟨front, rfl, onward⟩ := ih _ (b :: read) cut
      refine ⟨b :: front, rfl, fun more => ?_⟩
      rw [List.cons_append, cutDoctype, if_neg inside, onward]

theorem cutWith_local {cut : List UInt8 → Option Cut} (near : Local cut)
    {make : List UInt8 → Except Fault Token}
    (done : cutWith none markup (cut bytes) make = .ok (token, rest)) :
    ∃ front, bytes = front ++ rest ∧
      ∀ more, cutWith none markup (cut (front ++ more)) make = .ok (token, more) := by
  obtain ⟨content, found⟩ := cutWith_rest done
  obtain ⟨front, rfl, onward⟩ := near _ _ _ found
  refine ⟨front, rfl, fun more => ?_⟩
  rw [found] at done
  rw [onward]
  unfold cutWith at done ⊢
  cases made : make content with
  | error fault => simp [made, Except.map] at done
  | ok token =>
    simp only [made, Except.map, Except.ok.injEq, Prod.mk.injEq, and_true] at done ⊢
    exact done

def Token.isNameless : Token → Bool
  | .cdata _ | .aside => true
  | _ => false

theorem cutWith_nameless {cut : Option Cut} {make : List UInt8 → Except Fault Token}
    (nameless : ∀ content token, make content = .ok token → token.isNameless = true)
    (done : cutWith none markup cut make = .ok (token, rest)) : token.isNameless = true := by
  obtain ⟨content, rfl⟩ := cutWith_rest done
  change (make content).map (·, rest) = .ok (token, rest) at done
  cases made : make content with
  | error fault =>
    rw [made] at done
    cases done
  | ok found =>
    rw [made] at done
    cases done
    exact nameless content token made

theorem checked_nameless {check : Prop} [Decidable check] {fault : Fault} {made : Token}
    (nameless : made.isNameless = true)
    (done : (if check then .ok made else .error fault : Except Fault Token) = .ok token) :
    token.isNameless = true := by
  split at done
  · cases done
    exact nameless
  · cases done

theorem cdataToken_nameless (content : List UInt8) (token : Token)
    (made : cdataToken content = .ok token) : token.isNameless = true :=
  checked_nameless rfl made

theorem commentToken_nameless (content : List UInt8) (token : Token)
    (made : commentToken content = .ok token) : token.isNameless = true :=
  checked_nameless rfl made

theorem instructionToken_nameless (content : List UInt8) (token : Token)
    (made : instructionToken content = .ok token) : token.isNameless = true :=
  checked_nameless rfl made

theorem doctypeToken_nameless (content : List UInt8) (token : Token)
    (made : doctypeToken content = .ok token) : token.isNameless = true := by
  unfold doctypeToken at made
  split at made
  · split at made
    · cases made
    · cases made
      rfl
  · cases made

theorem ofBang_local (made : Token.ofBang none bytes = .ok (token, rest)) :
    token.isNameless = true ∧ ∃ front, bytes = front ++ rest ∧
      ∀ more, Token.ofBang none (front ++ more) = .ok (token, more) := by
  cases bytes with
  | nil => cases made
  | cons kind tail =>
    unfold Token.ofBang at made
    dsimp only at made
    split at made
    · rename_i cdata
      refine ⟨cutWith_nameless cdataToken_nameless made, ?_⟩
      cases eq_of_beq cdata
      obtain ⟨front, rfl, onward⟩ := cutWith_local (cutCData_local [0x5B]) made
      exact ⟨0x5B :: front, rfl, onward⟩
    · split at made
      · rename_i comment
        refine ⟨cutWith_nameless commentToken_nameless made, ?_⟩
        cases eq_of_beq comment
        obtain ⟨front, rfl, onward⟩ := cutWith_local (cutComment_local [0x2D]) made
        exact ⟨0x2D :: front, rfl, onward⟩
      · split at made
        · rename_i doctype
          refine ⟨cutWith_nameless doctypeToken_nameless made, ?_⟩
          rw [Bool.or_eq_true, beq_iff_eq, beq_iff_eq] at doctype
          rcases doctype with rfl | rfl
          · obtain ⟨front, rfl, onward⟩ := cutWith_local (cutDoctype_local 0 [0x44]) made
            exact ⟨0x44 :: front, rfl, onward⟩
          · obtain ⟨front, rfl, onward⟩ := cutWith_local (cutDoctype_local 0 [0x64]) made
            exact ⟨0x64 :: front, rfl, onward⟩
        · cases made

end Fronts

section Spellings

inductive Spelling : Token → List UInt8 → Prop
  | text {run : List UInt8} (bare : 0x3C ∉ run) : Spelling (.text run) run
  | opening {name trailing : List UInt8} (opens : Opens name trailing) :
      Spelling (.opening name) (startTag name trailing)
  | single {name trailing : List UInt8} (stands : Stands name trailing) :
      Spelling (.single name) (singleTag name trailing)
  | closing {name content : List UInt8} (paired : Paired content)
      (named : closingToken content = .closing name) :
      Spelling (.closing name) (0x3C :: 0x2F :: content ++ [0x3E])
  | nameless {token : Token} {markup : List UInt8} (nameless : token.isNameless = true)
      (spells : token.SpelledBy markup) : Spelling token markup

variable {token : Token} {content bytes rest : List UInt8}

theorem openingToken_spelling (paired : Paired content)
    (plain : ∀ b ∈ content.head?, b ≠ 0x21 ∧ b ≠ 0x2F ∧ b ≠ 0x3F) :
    Spelling (openingToken content) (0x3C :: content ++ [0x3E]) := by
  unfold openingToken
  split
  · rename_i slashed
    obtain ⟨inside, rfl⟩ := List.getLast?_eq_some_iff.mp (eq_of_beq slashed)
    have some : inside ≠ [] := by
      rintro rfl
      exact (plain 0x2F rfl).2.1 rfl
    have front : ∀ b ∈ inside.head?, b ≠ 0x21 ∧ b ≠ 0x2F ∧ b ≠ 0x3F := by
      intro b first
      exact plain b (by rw [List.head?_append, first]; rfl)
    obtain ⟨trailing, split, labels⟩ := nameOf_labels (paired.left (by simp)) front
    have stands : Stands (nameOf inside) trailing := ⟨labels, by rwa [← split]⟩
    have spelled := Spelling.single stands
    rw [singleTag, ← split] at spelled
    rw [List.dropLast_concat]
    simpa using spelled
  · rename_i unslashed
    obtain ⟨trailing, split, labels⟩ := nameOf_labels paired plain
    have opens : Opens (nameOf content) trailing := ⟨labels, by simpa [← split] using unslashed⟩
    have spelled := Spelling.opening opens
    rwa [startTag, ← split] at spelled

theorem ofMarkup_spelling (made : Token.ofMarkup none bytes = .ok (token, rest)) :
    ∃ markup, 0x3C :: bytes = markup ++ rest ∧ Spelling token markup := by
  cases bytes with
  | nil => cases made
  | cons first tail =>
    unfold Token.ofMarkup at made
    dsimp only at made
    split at made
    · rename_i bang
      cases eq_of_beq bang
      obtain ⟨nameless, front, rfl, onward⟩ := ofBang_local made
      refine ⟨0x3C :: 0x21 :: front, rfl, .nameless nameless fun more => ?_⟩
      change (Token.ofBang none (front ++ more)).map some = _
      rw [onward]
      rfl
    · rename_i unbanged
      split at made
      · rename_i slash
        cases eq_of_beq slash
        obtain ⟨content, found⟩ := cutWith_rest made
        obtain ⟨rfl, paired⟩ := cutTag_iff.mp found
        rw [found] at made
        cases made
        exact ⟨0x3C :: 0x2F :: content ++ [0x3E], by simp, .closing paired rfl⟩
      · rename_i unslashed
        split at made
        · rename_i mark
          cases eq_of_beq mark
          have nameless := cutWith_nameless instructionToken_nameless made
          obtain ⟨front, rfl, onward⟩ := cutWith_local (cutInstruction_local [0x3F]) made
          refine ⟨0x3C :: 0x3F :: front, rfl, .nameless nameless fun more => ?_⟩
          change (cutWith none .instruction (cutInstruction [0x3F] (front ++ more))
            instructionToken).map some = _
          rw [onward]
          rfl
        · rename_i unmarked
          obtain ⟨content, found⟩ := cutWith_rest made
          obtain ⟨split, paired⟩ := cutTag_iff.mp found
          rw [found] at made
          cases made
          refine ⟨0x3C :: content ++ [0x3E], by simp [split], openingToken_spelling paired ?_⟩
          intro b front
          have same : b = first := by
            cases content with
            | nil => cases front
            | cons c content =>
              cases front
              exact (List.cons.inj split).1.symm
          rw [same]
          exact ⟨by simpa using unbanged, by simpa using unslashed, by simpa using unmarked⟩

theorem next_spelling (read : Token.next none bytes = .ok (some (token, rest))) :
    ∃ markup, bytes = markup ++ rest ∧ Spelling token markup := by
  cases bytes with
  | nil => cases read
  | cons first tail =>
    unfold Token.next at read
    dsimp only at read
    split at read
    · rename_i markup
      cases eq_of_beq markup
      cases made : Token.ofMarkup none tail with
      | error fault =>
        rw [made] at read
        cases read
      | ok found =>
        rw [made] at read
        cases read
        exact ofMarkup_spelling made
    · simp only [Except.ok.injEq, Option.some.injEq, Prod.mk.injEq] at read
      obtain ⟨rfl, rfl⟩ := read
      refine ⟨_, List.takeWhile_append_dropWhile.symm, .text fun member => ?_⟩
      have other := List.all_eq_true.mp List.all_takeWhile _ member
      cases other

theorem Token.SpelledBy.starts {markup : List UInt8} (spells : token.SpelledBy markup)
    (untexted : ∀ content, token ≠ .text content) : markup.head? = some 0x3C := by
  have read := spells []
  rw [List.append_nil] at read
  cases markup with
  | nil => cases read
  | cons first tail =>
    unfold Token.next at read
    dsimp only at read
    split at read
    · rename_i mark
      rw [eq_of_beq mark]
      rfl
    · simp only [Except.ok.injEq, Option.some.injEq, Prod.mk.injEq] at read
      exact absurd read.1.symm (untexted _)

end Spellings

end Sitemaps.Xml

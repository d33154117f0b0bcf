import Sitemaps.Text.Ascii
import Sitemaps.Xml.Fault

/-!
The tokens of an XML document, read one at a time from its bytes. Attributes are skipped; comments,
instructions, declarations and document types leave no more than `Token.aside`.
-/

namespace Sitemaps.Xml

abbrev Name := List UInt8

inductive Token
  | text (content : List UInt8)
  | cdata (content : List UInt8)
  | opening (name : Name)
  | closing (name : Name)
  | single (name : Name)
  | aside
  deriving DecidableEq, Repr

def isSpace (b : UInt8) : Bool := b == 0x20 || b == 0x0D || b == 0x0A || b == 0x09

/-- A cut of the input: what stands before a delimiter and what follows it. -/
abbrev Cut := List UInt8 × List UInt8

def cutTag (quote : Option UInt8) (read : List UInt8) : List UInt8 → Option Cut
  | [] => none
  | b :: rest =>
    match quote with
    | none =>
      if b == 0x3E then some (read.reverse, rest)
      else cutTag (if b == 0x22 || b == 0x27 then some b else none) (b :: read) rest
    | some mark => cutTag (if b == mark then none else some mark) (b :: read) rest

def cutInstruction (read : List UInt8) : List UInt8 → Option Cut
  | [] => none
  | b :: rest =>
    if b == 0x3E && read.head? == some 0x3F then some (read.reverse, rest)
    else cutInstruction (b :: read) rest

/-- Up to the `>` that follows `--`, which is not the `--` that opens the comment. -/
def cutComment (read : List UInt8) : List UInt8 → Option Cut
  | [] => none
  | b :: rest =>
    if b == 0x3E && 4 ≤ read.length && read.take 2 == [0x2D, 0x2D] then some (read.reverse, rest)
    else cutComment (b :: read) rest

def cutCData (read : List UInt8) : List UInt8 → Option Cut
  | [] => none
  | b :: rest =>
    if b == 0x3E && read.take 2 == [0x5D, 0x5D] then some (read.reverse, rest)
    else cutCData (b :: read) rest

/-- Up to the `>` that closes as many `<` as were opened. -/
def cutDoctype (depth : Nat) (read : List UInt8) : List UInt8 → Option Cut
  | [] => none
  | b :: rest =>
    if b == 0x3E && depth == 0 then some (read.reverse, rest)
    else
      let inner := if b == 0x3C then depth + 1 else if b == 0x3E then depth - 1 else depth
      cutDoctype inner (b :: read) rest

/-- The fault at the end of the input: a reader that broke off hides what is missing. -/
def ending (failure : Option String) (fault : Fault) : Fault :=
  match failure with
  | some reason => .unreadable reason
  | none => fault

def nameOf (content : List UInt8) : Name := content.takeWhile (fun b => !isSpace b)

def doctypeWord : List UInt8 := [0x64, 0x6F, 0x63, 0x74, 0x79, 0x70, 0x65]
def cdataWord : List UInt8 := [0x5B, 0x43, 0x44, 0x41, 0x54, 0x41, 0x5B]

def commentToken (content : List UInt8) : Except Fault Token :=
  if content.take 2 == [0x2D, 0x2D] then .ok .aside else .error (.unclosed .comment)

def cdataToken (content : List UInt8) : Except Fault Token :=
  if content.take 7 == cdataWord then .ok (.cdata ((content.drop 7).dropLast.dropLast))
  else .error (.unclosed .cdata)

def doctypeToken (content : List UInt8) : Except Fault Token :=
  if (content.take 7).map Text.lowerByte == doctypeWord then
    if (content.drop 7).all isSpace then .error .unnamedDoctype else .ok .aside
  else .error (.unclosed .doctype)

/-- The content of an instruction ends with `?` and starts with another. -/
def instructionToken (content : List UInt8) : Except Fault Token :=
  if 2 ≤ content.length then .ok .aside else .error (.unclosed .instruction)

/-- White space after the name is no part of it, unless there is nothing else. -/
def closingToken (content : List UInt8) : Token :=
  let name := (content.reverse.dropWhile isSpace).reverse
  .closing (if name.isEmpty then content else name)

def openingToken (content : List UInt8) : Token :=
  if content.getLast? == some 0x2F then .single (nameOf content.dropLast)
  else .opening (nameOf content)

def cutWith (failure : Option String) (markup : Markup) (cut : Option Cut)
    (token : List UInt8 → Except Fault Token) : Except Fault (Token × List UInt8) :=
  match cut with
  | some (content, rest) => (token content).map (·, rest)
  | none => .error (ending failure (.unclosed markup))

def Token.ofBang (failure : Option String) (bytes : List UInt8) :
    Except Fault (Token × List UInt8) :=
  match bytes with
  | [] => .error (ending failure .unknownMarkup)
  | kind :: _ =>
    if kind == 0x5B then cutWith failure .cdata (cutCData [] bytes) cdataToken
    else if kind == 0x2D then cutWith failure .comment (cutComment [] bytes) commentToken
    else if kind == 0x44 || kind == 0x64 then
      cutWith failure .doctype (cutDoctype 0 [] bytes) doctypeToken
    else .error .unknownMarkup

def Token.ofMarkup (failure : Option String) (bytes : List UInt8) :
    Except Fault (Token × List UInt8) :=
  match bytes with
  | [] => .error (ending failure (.unclosed .tag))
  | first :: rest =>
    if first == 0x21 then Token.ofBang failure rest
    else if first == 0x2F then
      cutWith failure .tag (cutTag none [] rest) (fun content => .ok (closingToken content))
    else if first == 0x3F then
      cutWith failure .instruction (cutInstruction [first] rest) instructionToken
    else cutWith failure .tag (cutTag none [] bytes) (fun content => .ok (openingToken content))

def Token.next (failure : Option String) (bytes : List UInt8) :
    Except Fault (Option (Token × List UInt8)) :=
  match bytes with
  | [] =>
    match failure with
    | some reason => .error (.unreadable reason)
    | none => .ok none
  | first :: rest =>
    if first == 0x3C then (Token.ofMarkup failure rest).map some
    else
      let tail := bytes.dropWhile (· != 0x3C)
      match failure, tail with
      | some reason, [] => .error (.unreadable reason)
      | _, _ => .ok (some (.text (bytes.takeWhile (· != 0x3C)), tail))

theorem cutTag_shorter {quote read bytes content rest}
    (cut : cutTag quote read bytes = some (content, rest)) : rest.length < bytes.length := by
  induction bytes generalizing quote read with
  | nil => simp [cutTag] at cut
  | cons b tail ih =>
    unfold cutTag at cut
    split at cut
    · split at cut
      · simp at cut
        simp [cut.2]
      · have := ih cut
        simp; omega
    · have := ih cut
      simp; omega

theorem cutInstruction_shorter {read bytes content rest}
    (cut : cutInstruction read bytes = some (content, rest)) : rest.length < bytes.length := by
  fun_induction cutInstruction read bytes <;> simp_all
  omega

theorem cutComment_shorter {read bytes content rest}
    (cut : cutComment read bytes = some (content, rest)) : rest.length < bytes.length := by
  fun_induction cutComment read bytes <;> simp_all
  omega

theorem cutCData_shorter {read bytes content rest}
    (cut : cutCData read bytes = some (content, rest)) : rest.length < bytes.length := by
  fun_induction cutCData read bytes <;> simp_all
  omega

theorem cutDoctype_shorter {depth read bytes content rest}
    (cut : cutDoctype depth read bytes = some (content, rest)) : rest.length < bytes.length := by
  induction bytes generalizing depth read with
  | nil => simp [cutDoctype] at cut
  | cons b tail ih =>
    unfold cutDoctype at cut
    split at cut
    · simp at cut
      simp [cut.2]
    · have := ih cut
      simp; omega

theorem cutWith_rest {failure markup cut} {token : List UInt8 → Except Fault Token} {result rest}
    (done : cutWith failure markup cut token = .ok (result, rest)) :
    ∃ content, cut = some (content, rest) := by
  unfold cutWith at done
  split at done
  · rename_i content tail
    cases made : token content with
    | error fault => simp [made, Except.map] at done
    | ok made' => simp [made, Except.map] at done; exact ⟨content, by rw [done.2]⟩
  · simp at done

theorem Token.ofBang_shorter {failure bytes token rest}
    (read : Token.ofBang failure bytes = .ok (token, rest)) : rest.length < bytes.length := by
  unfold Token.ofBang at read
  split at read
  · simp at read
  · split at read
    · obtain ⟨_, cut⟩ := cutWith_rest read
      exact cutCData_shorter cut
    · split at read
      · obtain ⟨_, cut⟩ := cutWith_rest read
        exact cutComment_shorter cut
      · split at read
        · obtain ⟨_, cut⟩ := cutWith_rest read
          exact cutDoctype_shorter cut
        · simp at read

theorem Token.ofMarkup_shorter {failure bytes token rest}
    (read : Token.ofMarkup failure bytes = .ok (token, rest)) : rest.length < bytes.length := by
  unfold Token.ofMarkup at read
  split at read
  · simp at read
  · split at read
    · have := Token.ofBang_shorter read
      simp; omega
    · split at read
      · obtain ⟨_, cut⟩ := cutWith_rest read
        have := cutTag_shorter cut
        simp; omega
      · split at read
        · obtain ⟨_, cut⟩ := cutWith_rest read
          have := cutInstruction_shorter cut
          simp; omega
        · obtain ⟨_, cut⟩ := cutWith_rest read
          exact cutTag_shorter cut

theorem Token.next_shorter {failure bytes token rest}
    (read : Token.next failure bytes = .ok (some (token, rest))) : rest.length < bytes.length := by
  unfold Token.next at read
  split at read
  · split at read <;> simp at read
  · rename_i first tail
    split at read
    · cases made : Token.ofMarkup failure tail with
      | error fault => simp [made, Except.map] at read
      | ok made' =>
        simp [made, Except.map] at read
        subst read
        have := Token.ofMarkup_shorter made
        simp; omega
    · rename_i other
      dsimp only at read
      split at read
      · simp at read
      · simp at read
        have short := (List.dropWhile_sublist (l := tail) (· != 0x3C)).length_le
        have passed : (first != 0x3C) = true := by simpa [bne] using other
        rw [← read.2, List.dropWhile_cons_of_pos (p := (· != 0x3C)) passed]
        simp only [List.length_cons]
        omega

end Sitemaps.Xml

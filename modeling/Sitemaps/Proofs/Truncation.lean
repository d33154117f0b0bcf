import Sitemaps.Proofs.Cuts
import Sitemaps.Proofs.Nesting

/-!
A document that is cut off announces the beginning of what the whole one announces. The last text
before a cut may be half of a location, but whoever awaits it is inside an element that is still
open, and with an open element the end of the input is a fault.
-/

namespace Sitemaps

namespace Xml

section Tokens

variable {failure : Option String} {bytes rest : List UInt8} {token : Token}
  (other : Option String) (more : List UInt8)

theorem cutWith_append {markup : Markup} {cut longer : Option Cut}
    {make : List UInt8 → Except Fault Token}
    (onward : ∀ content rest, cut = some (content, rest) → longer = some (content, rest ++ more))
    (done : cutWith failure markup cut make = .ok (token, rest)) :
    cutWith other markup longer make = .ok (token, rest ++ more) := by
  obtain ⟨content, found⟩ := cutWith_rest done
  rw [onward content rest found]
  rw [found] at done
  unfold cutWith at done ⊢
  dsimp only at done ⊢
  cases made : make content with
  | error fault => simp [made, Except.map] at done
  | ok token =>
    simp only [made, Except.map, Except.ok.injEq, Prod.mk.injEq, and_true] at done ⊢
    exact done

theorem Token.ofBang_append (read : Token.ofBang failure bytes = .ok (token, rest)) :
    Token.ofBang other (bytes ++ more) = .ok (token, rest ++ more) := by
  cases bytes with
  | nil => cases read
  | cons kind tail =>
    unfold Token.ofBang at read ⊢
    rw [List.cons_append]
    dsimp only at read ⊢
    rw [← List.cons_append]
    split at read
    · rename_i cdata
      rw [if_pos cdata]
      exact cutWith_append other more (fun _ _ found => by
        rw [cutCData_eq] at found ⊢
        exact cutAt_append more found) read
    · rename_i plain
      rw [if_neg plain]
      split at read
      · rename_i comment
        rw [if_pos comment]
        exact cutWith_append other more (fun _ _ found => by
          rw [cutComment_eq] at found ⊢
          exact cutAt_append more found) read
      · rename_i uncommented
        rw [if_neg uncommented]
        split at read
        · rename_i doctype
          rw [if_pos doctype]
          exact cutWith_append other more (fun _ _ => cutDoctype_append more) read
        · cases read

theorem Token.ofMarkup_append (read : Token.ofMarkup failure bytes = .ok (token, rest)) :
    Token.ofMarkup other (bytes ++ more) = .ok (token, rest ++ more) := by
  cases bytes with
  | nil => cases read
  | cons first tail =>
    unfold Token.ofMarkup at read ⊢
    rw [List.cons_append]
    dsimp only at read ⊢
    rw [← List.cons_append]
    split at read
    · rename_i bang
      rw [if_pos bang]
      exact Token.ofBang_append other more read
    · rename_i unbanged
      rw [if_neg unbanged]
      split at read
      · rename_i closing
        rw [if_pos closing]
        exact cutWith_append other more (fun _ _ => cutTag_append more) read
      · rename_i unclosing
        rw [if_neg unclosing]
        split at read
        · rename_i instruction
          rw [if_pos instruction]
          exact cutWith_append other more (fun _ _ found => by
            rw [cutInstruction_eq] at found ⊢
            exact cutAt_append more found) read
        · rename_i opening
          rw [if_neg opening]
          exact cutWith_append other more (fun _ _ => cutTag_append more) read

/-- Where the input goes on, its tokens stay what they were, but for a text at its very end. -/
theorem Token.next_append (read : Token.next failure bytes = .ok (some (token, rest))) :
    (∃ content, token = .text content ∧ rest = []) ∨
      Token.next other (bytes ++ more) = .ok (some (token, rest ++ more)) := by
  cases bytes with
  | nil =>
    unfold Token.next at read
    dsimp only at read
    split at read <;> cases read
  | cons first tail =>
    unfold Token.next at read ⊢
    rw [List.cons_append]
    dsimp only at read ⊢
    split at read
    · rename_i markup
      rw [if_pos markup]
      cases made : Token.ofMarkup failure tail with
      | error fault => simp [made, Except.map] at read
      | ok found =>
        simp only [made, Except.map, Except.ok.injEq, Option.some.injEq] at read
        subst read
        rw [Token.ofMarkup_append other more made]
        exact Or.inr rfl
    · rename_i text
      rw [if_neg text]
      cases left : (first :: tail).dropWhile (· != 0x3C) with
      | nil =>
        rw [left] at read
        split at read
        · cases read
        · cases read
          exact Or.inl ⟨_, rfl, rfl⟩
      | cons next others =>
        have unread : ((first :: tail).takeWhile (· != 0x3C)).length ≠ (first :: tail).length := by
          intro whole
          have parts := congrArg List.length
            (List.takeWhile_append_dropWhile (p := (· != 0x3C)) (l := first :: tail))
          rw [List.length_append, left, List.length_cons] at parts
          omega
        rw [← List.cons_append, List.dropWhile_append, List.takeWhile_append, if_neg unread, left]
        simp only [List.isEmpty_cons, Bool.false_eq_true, if_false]
        rw [left] at read
        right
        split at read
        · rename_i same
          cases same
        · cases read
          cases other <;> rfl

theorem Token.next_unbroken (read : Token.next failure bytes = .ok (some (token, rest))) :
    Token.next none bytes = .ok (some (token, rest)) := by
  cases bytes with
  | nil =>
    unfold Token.next at read
    dsimp only at read
    split at read <;> cases read
  | cons first tail =>
    unfold Token.next at read ⊢
    dsimp only at read ⊢
    split at read
    · rename_i markup
      rw [if_pos markup]
      cases made : Token.ofMarkup failure tail with
      | error fault => simp [made, Except.map] at read
      | ok found =>
        have same := Token.ofMarkup_append none [] made
        rw [List.append_nil, List.append_nil] at same
        rw [same]
        rwa [made] at read
    · rename_i text
      rw [if_neg text]
      split at read
      · cases read
      · exact read

theorem Token.next_none (read : Token.next failure bytes = .ok none) : bytes = [] := by
  cases bytes with
  | nil => rfl
  | cons first tail =>
    unfold Token.next at read
    dsimp only at read
    split at read
    · cases made : Token.ofMarkup failure tail <;> simp [made, Except.map] at read
    · split at read <;> cases read

theorem Token.next_untagged (untagged : 0x3C ∉ bytes)
    (read : Token.next failure bytes = .ok (some (token, rest))) :
    (∃ content, token = .text content) ∧ rest = [] := by
  cases bytes with
  | nil =>
    unfold Token.next at read
    dsimp only at read
    split at read <;> cases read
  | cons first tail =>
    have all : ((first :: tail) ++ []).dropWhile (· != 0x3C) = [] :=
      List.dropWhile_append_of_pos fun b member =>
        bne_iff_ne.mpr fun same => untagged (same ▸ member)
    rw [List.append_nil] at all
    have text : ¬(first == 0x3C) = true := fun same =>
      untagged (eq_of_beq same ▸ List.mem_cons_self)
    unfold Token.next at read
    dsimp only at read
    rw [if_neg text, all] at read
    split at read
    · cases read
    · cases read
      exact ⟨⟨_, rfl⟩, rfl⟩

end Tokens

namespace Reader

def prolong (reader : Reader) (more : List UInt8) (other : Option String) : Reader :=
  { reader with rest := reader.rest ++ more, failure := other }

variable {reader after : Reader} {event : Event} (more : List UInt8) (other : Option String)

theorem next_token {token : Token} {rest : List UInt8}
    (found : Token.next reader.failure reader.rest = .ok (some (token, rest))) :
    reader.next = (Reader.read { reader with rest := rest } token).map some := by
  simp [next, found, bind, Except.bind]

theorem next_some (step : reader.next = .ok (some (event, after))) : ∃ token rest,
    Token.next reader.failure reader.rest = .ok (some (token, rest)) ∧
      Reader.read { reader with rest := rest } token = .ok (event, after) := by
  cases found : Token.next reader.failure reader.rest with
  | error fault => simp [next, found, bind, Except.bind] at step
  | ok found' =>
    cases found' with
    | none =>
      cases done : reader.finish <;> simp [next, found, bind, Except.bind, done, Except.map] at step
    | some pair =>
      obtain ⟨token, rest⟩ := pair
      rw [next_token found] at step
      cases made : Reader.read { reader with rest := rest } token with
      | error fault => simp [made, Except.map] at step
      | ok made' =>
        simp only [made, Except.map, Except.ok.injEq, Option.some.injEq] at step
        exact ⟨token, rest, rfl, step ▸ made⟩

theorem next_none (step : reader.next = .ok none) :
    Token.next reader.failure reader.rest = .ok none ∧ reader.opened = [] := by
  cases found : Token.next reader.failure reader.rest with
  | error fault => simp [next, found, bind, Except.bind] at step
  | ok found' =>
    cases found' with
    | none =>
      refine ⟨rfl, ?_⟩
      cases opened : reader.opened with
      | nil => rfl
      | cons name outer => simp [next, found, bind, Except.bind, finish, opened, Except.map] at step
    | some pair =>
      rw [next_token found] at step
      cases made : Reader.read { reader with rest := pair.2 } pair.1 <;>
        simp [made, Except.map] at step

theorem read_prolong (reader : Reader) (token : Token) :
    (reader.prolong more other).read token =
      (reader.read token).map fun made => (made.1, made.2.prolong more other) := by
  cases token with
  | text content => cases made : characters content <;> simp [read, made, Except.map]
  | closing name =>
    simp only [read, close, prolong]
    cases reader.opened with
    | nil => rfl
    | cons innermost outer =>
      dsimp only
      split <;> rfl
  | _ => rfl

theorem next_prolong (step : reader.next = .ok (some (event, after))) :
    (∃ content, event = .text content ∧ after = { reader with rest := [] }) ∨
      (reader.prolong more other).next = .ok (some (event, after.prolong more other)) := by
  obtain ⟨token, rest, found, made⟩ := next_some step
  rcases Token.next_append other more found with ⟨content, rfl, rfl⟩ | longer
  · left
    simp only [read] at made
    cases decoded : characters content with
    | error fault => simp [decoded, Except.map] at made
    | ok text =>
      simp only [decoded, Except.map, Except.ok.injEq, Prod.mk.injEq] at made
      exact ⟨text, made.1.symm, made.2.symm⟩
  · right
    have onward := read_prolong more other { reader with rest := rest } token
    rw [made] at onward
    rw [next_token longer]
    exact congrArg (Except.map some) onward

theorem ofBytes_append (piece more : List UInt8) (failure other : Option String) :
    ofBytes (piece ++ more) other = (ofBytes piece failure).prolong more other ∨
      0x3C ∉ (ofBytes piece failure).rest := by
  by_cases whole : 3 ≤ piece.length
  · left
    unfold ofBytes prolong
    rw [List.take_append_of_le_length whole, List.drop_append_of_le_length whole]
    cases marked : piece.take 3 == byteOrderMark <;> simp
  · have unmarked : (piece.take 3 == byteOrderMark) = false := by
      rw [beq_eq_false_iff_ne]
      intro same
      have size := congrArg List.length same
      rw [List.length_take, byteOrderMark] at size
      simp at size
      omega
    cases marked : (piece ++ more).take 3 == byteOrderMark with
    | true =>
      right
      unfold ofBytes
      rw [unmarked]
      intro member
      have inside : 0x3C ∈ (piece ++ more).take 3 := by
        rw [List.take_append]
        exact List.mem_append_left _ (by rwa [List.take_of_length_le (by omega)])
      rw [eq_of_beq marked] at inside
      revert inside
      decide
    | false =>
      left
      simp [ofBytes, prolong, marked, unmarked]

end Reader

def Token.nest (opened : List Name) : Token → List Name
  | .opening name => name :: opened
  | .closing _ => opened.tail
  | _ => opened

/-- The elements still open where an input ends, or where no more of it can be read as tokens. -/
def stillOpen (opened : List Name) (bytes : List UInt8) : List Name :=
  match _read : Token.next none bytes with
  | .ok (some (token, rest)) => stillOpen (token.nest opened) rest
  | _ => opened
  termination_by bytes.length
  decreasing_by exact Token.next_shorter _read

section Open

variable {opened : List Name} {bytes rest : List UInt8} {token : Token}

theorem stillOpen_nil : stillOpen opened [] = opened := by
  unfold stillOpen
  rfl

theorem stillOpen_token (read : Token.next none bytes = .ok (some (token, rest))) :
    stillOpen opened bytes = stillOpen (token.nest opened) rest := by
  conv => lhs; unfold stillOpen
  split
  · rename_i other others same
    rw [read] at same
    cases same
    rfl
  · rename_i none_read
    exact absurd read (none_read token rest)

theorem Reader.read_opened {reader after : Reader} {event : Event}
    (made : reader.read token = .ok (event, after)) :
    after.opened = token.nest reader.opened := by
  have nest := Reader.read_nest made
  cases token with
  | text content =>
    simp only [read] at made
    cases decoded : characters content <;> simp [decoded, Except.map] at made
    rw [← made.2]
    rfl
  | closing name =>
    simp only [read] at made
    cases closed : reader.close name <;> simp [closed, Except.map] at made
    rw [Token.nest, Reader.close_opened closed, made.2]
    rfl
  | _ =>
    simp only [read, Except.ok.injEq, Prod.mk.injEq] at made
    rw [← made.2]
    rfl

theorem stillOpen_tags (bytes : List UInt8) :
    stillOpen opened bytes = stillOpen opened (bytes.dropWhile (· != 0x3C)) := by
  cases bytes with
  | nil => rfl
  | cons first tail =>
    by_cases tag : first = 0x3C
    · rw [List.dropWhile_cons_of_neg (by simp [tag])]
    · have read : Token.next none (first :: tail) =
          .ok (some (.text ((first :: tail).takeWhile (· != 0x3C)),
            (first :: tail).dropWhile (· != 0x3C))) := by
        unfold Token.next
        simp [tag]
      rw [stillOpen_token read]
      rfl

theorem stillOpen_unmarked (bytes : List UInt8) :
    stillOpen opened (byteOrderMark ++ bytes) = stillOpen opened bytes := by
  rw [stillOpen_tags, stillOpen_tags bytes]
  rfl

theorem stillOpen_ofBytes (failure : Option String) :
    stillOpen opened (Reader.ofBytes bytes failure).rest = stillOpen opened bytes := by
  unfold Reader.ofBytes
  cases marked : bytes.take 3 == byteOrderMark with
  | false => simp
  | true =>
    have whole := List.take_append_drop 3 bytes
    rw [eq_of_beq marked] at whole
    rw [if_pos rfl, ← stillOpen_unmarked, whole]

end Open

end Xml

namespace Sitemap

namespace Document

section Shelter

/-- Whoever awaits text is within an open element of a field. -/
def Sheltered (document : Document) (opened : List Xml.Name) : Prop :=
  document.awaiting ≠ none → ∃ name ∈ opened, ∃ field, Tag.ofName name = .field field

variable {document : Document} {opened : List Xml.Name}

theorem Sheltered.outermost (sheltered : document.Sheltered []) : document.awaiting = none := by
  cases awaiting : document.awaiting with
  | none => rfl
  | some field =>
    obtain ⟨name, inside, -⟩ := sheltered (by simp [awaiting])
    cases inside

theorem flush_sheltered (sheltered : document.Sheltered opened) :
    document.flush.1.Sheltered opened := by
  intro awaiting
  rcases (flush_handed document).waiting with stopped | ⟨kept, -⟩
  · exact absurd stopped awaiting
  · exact sheltered (kept ▸ awaiting)

theorem start_sheltered (name : Xml.Name) (sheltered : document.Sheltered opened) :
    (document.start (Tag.ofName name)).Sheltered (name :: opened) := by
  intro awaiting
  have outer : document.awaiting ≠ none →
      ∃ other ∈ name :: opened, ∃ field, Tag.ofName other = .field field := by
    intro awaiting
    obtain ⟨other, member, field⟩ := sheltered awaiting
    exact ⟨other, List.mem_cons_of_mem _ member, field⟩
  cases tag : Tag.ofName name with
  | field field => exact ⟨name, List.mem_cons_self, field, tag⟩
  | _ =>
    rw [tag] at awaiting
    exact outer awaiting

theorem closeEntry_awaiting (document : Document) :
    document.closeEntry.1.awaiting = document.awaiting := by
  unfold closeEntry
  split
  · rfl
  · split <;> rfl

theorem stop_sheltered (name : Xml.Name) (sheltered : document.Sheltered (name :: opened)) :
    (document.stop (Tag.ofName name)).1.Sheltered opened := by
  intro awaiting
  have inner : document.awaiting ≠ none → (∀ field, Tag.ofName name ≠ .field field) →
      ∃ other ∈ opened, ∃ field, Tag.ofName other = .field field := by
    intro awaiting other
    obtain ⟨shelter, member, field, tag⟩ := sheltered awaiting
    rcases List.mem_cons.mp member with rfl | inside
    · exact absurd tag (other field)
    · exact ⟨shelter, inside, field, tag⟩
  cases tag : Tag.ofName name with
  | field field =>
    rw [tag] at awaiting
    exact absurd rfl awaiting
  | url =>
    rw [tag] at awaiting
    apply inner _ (by simp [tag])
    exact fun none => awaiting ((closeEntry_awaiting document).trans none)
  | sitemap =>
    rw [tag] at awaiting
    exact inner awaiting (by simp [tag])
  | other =>
    rw [tag] at awaiting
    exact inner awaiting (by simp [tag])

theorem handle_sheltered (document : Document) {event : Xml.Event} {after : List Xml.Name}
    (sheltered : document.Sheltered opened) (nest : event.nest opened after) :
    (document.handle event).1.Sheltered after := by
  cases event with
  | text content =>
    cases nest
    exact sheltered
  | aside =>
    cases nest
    exact sheltered
  | opening name =>
    cases nest
    exact start_sheltered name (flush_sheltered sheltered)
  | closing name =>
    cases nest
    exact stop_sheltered name (flush_sheltered sheltered)
  | single name =>
    cases nest
    exact stop_sheltered name (start_sheltered name (flush_sheltered sheltered))

theorem next_sheltered {after : Document} {findings : List Finding}
    (sheltered : document.Sheltered document.reader.opened)
    (step : document.next = .onward after findings) : after.Sheltered after.reader.opened := by
  cases read : document.reader.next with
  | error fault => simp [next_failed read] at step
  | ok found =>
    cases found with
    | none => simp [next_finished read] at step
    | some pair =>
      obtain ⟨event, reader⟩ := pair
      rw [next_onward read, Step.onward.injEq] at step
      obtain ⟨rfl, rfl⟩ := step
      rw [handle_reader]
      exact handle_sheltered { document with reader := reader } sheltered
        (Xml.Reader.next_nest read)

theorem flush_outside (outside : document.awaiting = none) : document.flush.2 = [] := by
  unfold flush dispatch
  simp [outside]

end Shelter

def prolong (document : Document) (more : List UInt8) (other : Option String) : Document :=
  { document with reader := document.reader.prolong more other }

section Prolonged

variable {document : Document} (more : List UInt8) (other : Option String)

theorem handle_prolong (document : Document) (event : Xml.Event) :
    (document.prolong more other).handle event =
      ((document.handle event).1.prolong more other, (document.handle event).2) := by
  unfold prolong
  rw [handle_with, handle_reader]

theorem ahead_exhausted (sheltered : document.Sheltered document.reader.opened)
    (exhausted : document.reader.rest = []) : document.ahead = [] := by
  cases read : document.reader.next with
  | error fault => exact ahead_failed (next_failed read)
  | ok found =>
    cases found with
    | none =>
      rw [(Xml.Reader.next_none read).2] at sheltered
      rw [ahead_finished (next_finished read), flush_outside sheltered.outermost]
    | some pair =>
      have shorter := Xml.Reader.next_shorter read
      rw [exhausted] at shorter
      exact absurd shorter (Nat.not_lt_zero _)

theorem ahead_untagged (sheltered : document.Sheltered document.reader.opened)
    (untagged : 0x3C ∉ document.reader.rest) : document.ahead = [] := by
  cases read : document.reader.next with
  | error fault => exact ahead_failed (next_failed read)
  | ok found =>
    cases found with
    | none =>
      rw [(Xml.Reader.next_none read).2] at sheltered
      rw [ahead_finished (next_finished read), flush_outside sheltered.outermost]
    | some pair =>
      obtain ⟨event, reader⟩ := pair
      obtain ⟨token, rest, found, made⟩ := Xml.Reader.next_some read
      obtain ⟨⟨content, rfl⟩, rfl⟩ := Xml.Token.next_untagged untagged found
      have step := next_onward read
      have still := next_sheltered sheltered step
      have text : (handle { document with reader := reader } event).2 = [] := by
        cases decoded : Xml.characters content <;>
          simp only [Xml.Reader.read, decoded, Except.map] at made
        · cases made
        · cases made
          rfl
      rw [ahead_onward step, text]
      apply ahead_exhausted still
      rw [handle_reader, Xml.Reader.read_rest made]

/-- What a document hands on, it hands on first where its input goes on. -/
theorem ahead_prolong (document : Document)
    (sheltered : document.Sheltered document.reader.opened) :
    handedOn document.ahead <+: handedOn (document.prolong more other).ahead := by
  induction size : document.remaining using Nat.strongRecOn generalizing document with
  | ind n ih =>
    cases read : document.reader.next with
    | error fault =>
      rw [ahead_failed (next_failed read)]
      exact List.nil_prefix
    | ok found =>
      cases found with
      | none =>
        rw [(Xml.Reader.next_none read).2] at sheltered
        rw [ahead_finished (next_finished read), flush_outside sheltered.outermost]
        exact List.nil_prefix
      | some pair =>
        obtain ⟨event, reader⟩ := pair
        have step := next_onward read
        have shorter := next_shorter step
        have still := next_sheltered sheltered step
        rw [ahead_onward step]
        rcases Xml.Reader.next_prolong more other read with ⟨content, rfl, rfl⟩ | longer
        · rw [ahead_exhausted still rfl]
          exact List.nil_prefix
        · have onward : (document.prolong more other).next =
              .onward ((handle { document with reader := reader } event).1.prolong more other)
                (handle { document with reader := reader } event).2 := by
            have read : (document.prolong more other).reader.next = _ := longer
            rw [next_onward read]
            exact congrArg (fun made => Step.onward made.1 made.2)
              (handle_prolong more other { document with reader := reader } event)
          rw [ahead_onward onward, handedOn_append, handedOn_append,
            List.prefix_append_right_inj]
          exact ih _ (size ▸ shorter) _ still rfl

end Prolonged

theorem parseFrom_closed {document : Document} {found : List Finding} {summary : Summary}
    (completes : (document.parseFrom found none).result = .ok summary) :
    Xml.stillOpen document.reader.opened document.reader.rest = [] := by
  induction size : document.remaining using Nat.strongRecOn generalizing document found with
  | ind n ih =>
    cases read : document.reader.next with
    | error fault =>
      rw [parseFrom_failed _ (next_failed read)] at completes
      cases completes
    | ok next =>
      cases next with
      | none =>
        obtain ⟨ended, closed⟩ := Xml.Reader.next_none read
        rw [closed, Xml.Token.next_none ended, Xml.stillOpen_nil]
      | some pair =>
        obtain ⟨event, reader⟩ := pair
        have step := next_onward read
        rw [parseFrom_onward _ step] at completes
        have closed := ih _ (size ▸ next_shorter step) completes rfl
        rw [handle_reader] at closed
        obtain ⟨token, rest, token_read, made⟩ := Xml.Reader.next_some read
        rw [Xml.Reader.read_opened made, Xml.Reader.read_rest made] at closed
        rw [Xml.stillOpen_token (Xml.Token.next_unbroken token_read)]
        exact closed

end Document

/-- What a document hands on before it is cut off, or breaks off, is where the whole one begins; and
it does not end well while an element is open. -/
theorem truncation_shortens (location : String) (scope : Scope) (piece more : List UInt8)
    (failure other : Option String) :
    handedOn (parse location scope piece failure none).findings <+:
        handedOn (parse location scope (piece ++ more) other none).findings ∧
      (Xml.stillOpen [] piece ≠ [] →
        ∃ fault, (parse location scope piece failure none).result = .error fault) := by
  have sheltered : (Document.ofBytes location scope piece failure).Sheltered
      (Document.ofBytes location scope piece failure).reader.opened := fun awaiting =>
    absurd rfl awaiting
  constructor
  · rcases Xml.Reader.ofBytes_append piece more failure other with same | untagged
    · have whole : Document.ofBytes location scope (piece ++ more) other =
          (Document.ofBytes location scope piece failure).prolong more other := by
        unfold Document.ofBytes Document.prolong
        rw [same]
      unfold parse
      rw [whole]
      exact Document.ahead_prolong more other _ sheltered
    · have nothing := Document.ahead_untagged sheltered untagged
      unfold parse
      rw [← Document.ahead, nothing]
      exact List.nil_prefix
  · intro opened
    cases result : (parse location scope piece failure none).result with
    | error fault => exact ⟨fault, rfl⟩
    | ok summary =>
      have closed := Document.parseFrom_closed result
      exact absurd (Xml.stillOpen_ofBytes failure ▸ closed) opened

theorem truncation_shortens_half :
    Xml.stillOpen [] (Text.asciiBytes "<loc>h") ≠ [] ∧
      ∃ fault, (parse "http://a/" .strict (Text.asciiBytes "<loc>h") none none).result =
        .error fault := by
  have tag : Xml.Token.next none (Text.asciiBytes "<loc>h") =
      .ok (some (.opening (Text.asciiBytes "loc"), Text.asciiBytes "h")) := by cbv
  have text : Xml.Token.next none (Text.asciiBytes "h") =
      .ok (some (.text (Text.asciiBytes "h"), [])) := by cbv
  have opened : Xml.stillOpen [] (Text.asciiBytes "<loc>h") ≠ [] := by
    rw [Xml.stillOpen_token tag, Xml.stillOpen_token text, Xml.stillOpen_nil]
    exact List.cons_ne_nil _ _
  exact ⟨opened, (truncation_shortens "http://a/" .strict _ (Text.asciiBytes "ttp://a/s</loc>")
    none none).2 opened⟩

end Sitemap

end Sitemaps

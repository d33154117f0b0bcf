import Sitemaps.Xml.Token
import Sitemaps.Xml.Unescape

/-!
Events of an XML document: tokens whose tags are balanced and whose character data is decoded.
-/

namespace Sitemaps.Xml

structure Reader where
  rest : List UInt8
  /-- Why the source broke off after `rest`, if it did. -/
  failure : Option String
  /-- Names of the open elements, the innermost first. -/
  opened : List Name

inductive Event
  | text (content : List Char)
  | opening (name : Name)
  | closing (name : Name)
  | single (name : Name)
  | aside

def byteOrderMark : List UInt8 := [0xEF, 0xBB, 0xBF]

def Reader.ofBytes (bytes : List UInt8) (failure : Option String) : Reader :=
  { rest := if bytes.take 3 == byteOrderMark then bytes.drop 3 else bytes
    failure := failure
    opened := [] }

def localName (name : Name) : Name :=
  match name.dropWhile (· != 0x3A) with
  | [] => name
  | _ :: rest => rest

/-- A name as a fault shows it; one that is not UTF-8 is left out. -/
def shown (name : Name) : String := (Text.Utf8.decode? name).getD ""

def Reader.close (reader : Reader) (name : Name) : Except Fault Reader :=
  match reader.opened with
  | [] => .error (.unmatchedEnd (shown name))
  | innermost :: outer =>
    if innermost == name then .ok { reader with opened := outer }
    else .error (.mismatchedEnd (shown innermost) (shown name))

def characters (content : List UInt8) : Except Fault (List Char) :=
  match Text.Utf8.decode content with
  | .ok text => unescape text
  | .error fault => .error (.notUtf8 fault)

def Reader.read (reader : Reader) : Token → Except Fault (Event × Reader)
  | .text content => (characters content).map (.text ·, reader)
  | .cdata content => .ok (.text (Text.Utf8.decodeLossy content), reader)
  | .opening name => .ok (.opening name, { reader with opened := name :: reader.opened })
  | .closing name => (reader.close name).map (.closing name, ·)
  | .single name => .ok (.single name, reader)
  | .aside => .ok (.aside, reader)

/-- A document ends well only with all its elements closed. -/
def Reader.finish (reader : Reader) : Except Fault Unit :=
  match reader.opened with
  | [] => .ok ()
  | innermost :: _ =>
    .error (.missingEnd (String.ofList (Text.Utf8.decodeLossy (localName innermost))))

def Reader.next (reader : Reader) : Except Fault (Option (Event × Reader)) := do
  match ← Token.next reader.failure reader.rest with
  | none => reader.finish.map (fun _ => none)
  | some (token, rest) => (Reader.read { reader with rest := rest } token).map some

theorem Reader.close_rest {reader after : Reader} {name} (closed : reader.close name = .ok after) :
    after.rest = reader.rest := by
  unfold Reader.close at closed
  split at closed
  · simp at closed
  · split at closed <;> simp at closed
    rw [← closed]

theorem Reader.read_rest {reader after : Reader} {token event}
    (read : reader.read token = .ok (event, after)) : after.rest = reader.rest := by
  unfold Reader.read at read
  split at read
  · rename_i content
    cases made : characters content <;> simp [made, Except.map] at read
    rw [← read.2]
  · simp at read; rw [← read.2]
  · simp at read; rw [← read.2]
  · rename_i name
    cases made : reader.close name <;> simp [made, Except.map] at read
    rw [← read.2]
    exact Reader.close_rest made
  · simp at read; rw [← read.2]
  · simp at read; rw [← read.2]

theorem Reader.next_shorter {reader after : Reader} {event}
    (read : reader.next = .ok (some (event, after))) : after.rest.length < reader.rest.length := by
  unfold Reader.next at read
  cases token : Token.next reader.failure reader.rest with
  | error fault => simp [token, bind, Except.bind] at read
  | ok found =>
    cases found with
    | none =>
      cases done : reader.finish <;> simp [token, bind, Except.bind, done, Except.map] at read
    | some found =>
      obtain ⟨token', rest⟩ := found
      simp only [token, bind, Except.bind] at read
      cases made : Reader.read { reader with rest := rest } token' with
      | error fault => simp [made, Except.map] at read
      | ok made' =>
        simp [made, Except.map] at read
        subst read
        rw [Reader.read_rest made]
        exact Token.next_shorter token

end Sitemaps.Xml

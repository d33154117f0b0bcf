import Sitemaps.Text.Utf8

/-! Why an XML document cannot be read on. -/

namespace Sitemaps.Xml

inductive Markup
  | tag | comment | cdata | doctype | instruction
  deriving DecidableEq, Repr

inductive Reference
  | notADigit | noDigits | signed | tooLarge
  | notACharacter (code : Nat)
  | zero
  deriving DecidableEq, Repr

def Reference.message : Reference → String
  | .notADigit => "invalid digit found in string"
  | .noDigits => "cannot parse integer from empty string"
  | .signed => "unexpected number sign"
  | .tooLarge => "number too large to fit in target type"
  | .notACharacter code => s!"`{code}` is not a valid codepoint"
  | .zero => "0x0 character is not permitted in XML"

inductive Fault
  | unreadable (reason : String)
  | unclosed (markup : Markup)
  | unknownMarkup
  | unnamedDoctype
  | missingEnd (name : String)
  | unmatchedEnd (name : String)
  | mismatchedEnd (expected found : String)
  | notUtf8 (fault : Text.Utf8.Fault)
  | unterminatedReference (start stop : Nat)
  | unknownEntity (start stop : Nat) (name : String)
  | badReference (reference : Reference)
  deriving DecidableEq, Repr

inductive Fault.Kind
  | input | form | nesting | encoding | reference
  deriving DecidableEq, Repr

def Fault.kind : Fault → Kind
  | .unreadable _ => .input
  | .unclosed _ | .unknownMarkup => .form
  | .unnamedDoctype | .missingEnd _ | .unmatchedEnd _ | .mismatchedEnd _ _ => .nesting
  | .notUtf8 _ => .encoding
  | .unterminatedReference _ _ | .unknownEntity _ _ _ | .badReference _ => .reference

def Markup.unclosedMessage : Markup → String
  | .tag => "tag not closed: `>` not found before end of input"
  | .comment => "comment not closed: `-->` not found before end of input"
  | .cdata => "CDATA not closed: `]]>` not found before end of input"
  | .doctype => "DOCTYPE not closed: `>` not found before end of input"
  | .instruction =>
    "processing instruction or xml declaration not closed: `?>` not found before end of input"

def Fault.message : Fault → String
  | .unreadable reason => s!"I/O error: {reason}"
  | .unclosed markup => s!"syntax error: {markup.unclosedMessage}"
  | .unknownMarkup => "syntax error: unknown or missed symbol in markup"
  | .unnamedDoctype =>
    "ill-formed document: `<!DOCTYPE>` declaration does not contain a name of a document type"
  | .missingEnd name =>
    s!"ill-formed document: start tag not closed: `</{name}>` not found before end of input"
  | .unmatchedEnd name =>
    s!"ill-formed document: close tag `</{name}>` does not match any open tag"
  | .mismatchedEnd expected found =>
    s!"ill-formed document: expected `</{expected}>`, but `</{found}>` was found"
  | .notUtf8 fault => s!"cannot decode input using UTF-8: {fault.message}"
  | .unterminatedReference start stop =>
    s!"Error while escaping character at range {start}..{stop}: Cannot find ';' after '&'"
  | .unknownEntity start stop name => s!"at {start}..{stop}: unrecognized entity `{name}`"
  | .badReference reference => s!"invalid character reference: {reference.message}"

end Sitemaps.Xml

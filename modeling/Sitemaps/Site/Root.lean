import Sitemaps.Text.Blank
import Sitemaps.Url.Parser

/-! The root of a site: scheme, host and port. Resolution is tracked per root. -/

namespace Sitemaps

inductive WebScheme
  | http | https
  deriving DecidableEq, Repr, Hashable

def WebScheme.name : WebScheme → String
  | .http => "http"
  | .https => "https"

def WebScheme.ofName? (name : String) : Option WebScheme :=
  if name = "http" then some .http else if name = "https" then some .https else none

/-- A root is known by its text. -/
structure Root where
  text : String
  deriving DecidableEq, Repr

namespace Root

inductive Fault
  | unreadable (text : String) (fault : Url.Fault)
  | otherScheme (scheme : String)
  | hostless (url : String)
  deriving DecidableEq, Repr

def Fault.message : Fault → String
  | .unreadable text fault => s!"Failed to parse URL: {text}: {fault.message}"
  | .otherScheme scheme =>
    s!"Invalid URL scheme: Only HTTP and HTTPS schemes are supported, got: {scheme}"
  | .hostless url => s!"Missing host in URL: {url}"

def of (scheme : WebScheme) (host : Url.Host) (port : Option Nat) : Root :=
  ⟨scheme.name ++ "://" ++ host.text ++ Url.portText port⟩

def ofUrl (url : Url) : Except Fault Root :=
  match WebScheme.ofName? url.scheme with
  | none => .error (.otherScheme url.scheme)
  | some scheme =>
    match url.authority with
    | none => .error (.hostless url.text)
    | some authority => .ok (of scheme authority.host authority.port)

def parse (text : String) : Except Fault Root :=
  match Url.parse (Text.trim text) with
  | .error fault => .error (.unreadable text fault)
  | .ok url => ofUrl url

def locate (root : Root) (path : String) : String :=
  if path.toList.head? = some '/' then root.text ++ path else root.text ++ "/" ++ path

def contains (root : Root) (location : String) : Bool :=
  match parse location with
  | .ok other => other = root
  | .error _ => false

end Root

end Sitemaps

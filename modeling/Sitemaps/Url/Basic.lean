import Sitemaps.Url.Address

/-! URLs by their parts, and their text. -/

namespace Sitemaps

inductive Url.Host
  | empty
  | domain (name : String)
  | ipv4 (address : Nat)
  | ipv6 (groups : List Nat)
  deriving DecidableEq, Repr

structure Url.Authority where
  username : String
  password : String
  host : Url.Host
  port : Option Nat
  deriving DecidableEq, Repr

inductive Url.Path
  /-- A path that no relative reference can build on. -/
  | rigid (text : String)
  | segments (names : List String)
  deriving DecidableEq, Repr

structure Url where
  scheme : String
  authority : Option Url.Authority
  path : Url.Path
  query : Option String
  fragment : Option String
  deriving DecidableEq, Repr

namespace Url

inductive Fault
  | noBase
  | rigidBase
  | emptyHost
  | badPort
  | badIpv4
  | badIpv6
  | badDomain
  | badHostCharacter
  deriving DecidableEq, Repr

def Fault.message : Fault → String
  | .noBase => "relative URL without a base"
  | .rigidBase => "relative URL with a cannot-be-a-base base"
  | .emptyHost => "empty host"
  | .badPort => "invalid port number"
  | .badIpv4 => "invalid IPv4 address"
  | .badIpv6 => "invalid IPv6 address"
  | .badDomain => "invalid international domain name"
  | .badHostCharacter => "invalid domain character"

/-- Special schemes always have an authority, and read `\` as `/`; of them `file` has rules of its
own. -/
inductive Kind
  | file | special | plain
  deriving DecidableEq, Repr

def kindOf (scheme : String) : Kind :=
  if scheme = "file" then .file
  else if ["http", "https", "ws", "wss", "ftp"].contains scheme then .special
  else .plain

def Kind.isSpecial : Kind → Bool
  | .plain => false
  | _ => true

def defaultPort? (scheme : String) : Option Nat :=
  if scheme = "http" ∨ scheme = "ws" then some 80
  else if scheme = "https" ∨ scheme = "wss" then some 443
  else if scheme = "ftp" then some 21
  else none

def Host.text : Host → String
  | .empty => ""
  | .domain name => name
  | .ipv4 address => Ipv4.text address
  | .ipv6 groups => "[" ++ Ipv6.text groups ++ "]"

def portText : Option Nat → String
  | none => ""
  | some port => ":" ++ toString port

def Authority.text (a : Authority) : String :=
  let password := if a.password.isEmpty then "" else ":" ++ a.password
  let userinfo := a.username ++ password
  (if userinfo.isEmpty then "" else userinfo ++ "@") ++ a.host.text ++ portText a.port

def Path.text : Path → String
  | .rigid text => text
  | .segments names => String.join (names.map ("/" ++ ·))

/-- Without an authority a path that starts with two slashes would be read as one. -/
def pathPrelude (url : Url) : String :=
  match url.authority, url.path with
  | none, .segments ("" :: _ :: _) => "/."
  | _, _ => ""

def authorityText : Option Authority → String
  | none => ""
  | some a => "//" ++ a.text

def optionalText (mark : String) : Option String → String
  | none => ""
  | some text => mark ++ text

def text (url : Url) : String :=
  url.scheme ++ ":" ++ authorityText url.authority ++ url.pathPrelude ++ url.path.text ++
    optionalText "?" url.query ++ optionalText "#" url.fragment

end Url

end Sitemaps

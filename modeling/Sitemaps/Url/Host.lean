import Sitemaps.Url.Basic
import Sitemaps.Url.Domain
import Sitemaps.Url.Percent

/-! Reading the host of a URL. -/

namespace Sitemaps.Url

def bracketed (text : List Char) : Except Fault Host :=
  if 2 ≤ text.length && text.getLast? == some ']' then
    match Ipv6.address? (text.drop 1).dropLast with
    | some groups => .ok (.ipv6 groups)
    | none => .error .badIpv6
  else .error .badIpv6

def specialHost (text : List Char) : Except Fault Host :=
  if text.head? == some '[' then bracketed text
  else
    match (Text.Utf8.decode (percentDecode text)).toOption.bind Domain.toAscii with
    | none => .error .badDomain
    | some [] => .error .emptyHost
    | some name =>
      if Ipv4.endsInNumber name then
        match Ipv4.address? name with
        | some address => .ok (.ipv4 address)
        | none => .error .badIpv4
      else .ok (.domain (String.ofList name))

def hostBreakers : List Char :=
  ['\x00', '\t', '\n', '\r', ' ', '#', '/', ':', '<', '>', '?', '@', '[', '\\', ']', '^', '|']

/-- The host of any other URL is kept as it is written. -/
def plainHost (text : List Char) : Except Fault Host :=
  if text.head? == some '[' then bracketed text
  else if text.any hostBreakers.contains then .error .badHostCharacter
  else if text.isEmpty then .ok .empty
  else .ok (.domain (String.ofList (percentEncode controlSet text)))

/-- A file on the local host has no host. -/
def fileHost (text : List Char) : Except Fault Host :=
  if text.isEmpty then .ok .empty
  else do
    match ← specialHost text with
    | .domain name => .ok (if name = "localhost" then .empty else .domain name)
    | host => .ok host

end Sitemaps.Url

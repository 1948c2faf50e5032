import Playout.Url.Address

/-!
# Addresses of sockets

A socket is reached at a numeric host and a port. An IPv6 address stands in brackets and may name a scope.
Ports and scopes are decimal numbers and may start with zeros; the numbers of an IPv4 address may not.
-/

namespace Playout.Rtp

inductive Endpoint where
  | ipv4 (address : Nat) (port : Nat)
  | ipv6 (words : List Nat) (scope : Nat) (port : Nat)
deriving DecidableEq, Repr

namespace Endpoint

def below? (limit : Nat) (cs : List Char) : Option Nat := do
  guard (!cs.isEmpty && cs.all Char.isDigit)
  let n ← Url.numberIn 10 cs
  guard (n < limit)
  return n

def portLimit : Nat := 0x10000

def scopeLimit : Nat := 0x100000000

/-- Reads an IPv4 address and a port. -/
def parseIpv4? (cs : List Char) : Option Endpoint := do
  match ← (Url.splitDots (cs.takeWhile (· ≠ ':'))).mapM Url.decimalByte?,
      cs.dropWhile (· ≠ ':') with
  | [a, b, c, d], _ :: port =>
    return .ipv4 (((a * 256 + b) * 256 + c) * 256 + d) (← below? portLimit port)
  | _, _ => none

/-- Reads an IPv6 address behind its opening bracket, and a port. -/
def parseIpv6? (cs : List Char) : Option Endpoint := do
  let inside := cs.takeWhile (· ≠ ']')
  let words ← (Url.parseIpv6 (inside.takeWhile (· ≠ '%'))).toOption
  let scope ← match inside.dropWhile (· ≠ '%') with
    | [] => some 0
    | _ :: scope => below? scopeLimit scope
  match cs.dropWhile (· ≠ ']') with
  | _ :: ':' :: port => return .ipv6 words scope (← below? portLimit port)
  | _ => none

def parse? (s : String) : Option Endpoint :=
  match s.toList with
  | '[' :: cs => parseIpv6? cs
  | cs => parseIpv4? cs

end Endpoint

end Playout.Rtp

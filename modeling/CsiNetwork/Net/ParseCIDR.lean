import CsiNetwork.Net.IP

/-!
# `net.ParseCIDR` on IPv4 literals

Every operation of `IPV4Network` starts with `_, myNet, _ := net.ParseCIDR(iNet.CIDR)` and
dereferences `myNet`, so whether the network's CIDR string parses decides whether the call
panics. This module follows Go's `ParseCIDR`, `parseIPv4` and `dtoi` (Go 1.16, the version
`go.mod` names: octets with leading zeros are accepted) over the characters of the string.
The networks the engine builds are IPv4 ones; `Net.ParseIP` adds Go's IPv6 branch and shows
that `parseCIDR` is the IPv4 branch of the whole function.
-/

namespace CsiNetwork

/-- Go's `big`: `dtoi` gives up once the number reaches it. -/
def big : Nat := 0xFFFFFF

/-- Go's `dtoi` from `n` after `i` digits: the decimal number at the start of the input,
the number of digits read, and whether at least one digit was read before `big`. -/
def dtoiFrom (n i : Nat) : List Char → Nat × Nat × Bool
  | c :: cs =>
    if c.isDigit then
      if n * 10 + (c.toNat - '0'.toNat) ≥ big then (big, i, false)
      else dtoiFrom (n * 10 + (c.toNat - '0'.toNat)) (i + 1) cs
    else if i = 0 then (0, 0, false) else (n, i, true)
  | [] => if i = 0 then (0, 0, false) else (n, i, true)

/-- Go's `dtoi`. -/
def dtoi (s : List Char) : Nat × Nat × Bool := dtoiFrom 0 0 s

/-- Octet number `i` of `parseIPv4`: a dot unless it is the first, then a decimal number of
at most `0xFF`; returns the number and the rest of the input. -/
def parseOctet (i : Nat) : List Char → Option (Nat × List Char)
  | [] => none
  | c :: cs =>
    let s? := if i = 0 then some (c :: cs) else if c = '.' then some cs else none
    s?.bind fun s =>
      match dtoi s with
      | (n, k, ok) => if !ok || n > 0xFF then none else some (n, s.drop k)

/-- Go's `parseIPv4`: four octets and nothing after them. -/
def parseIPv4 (s : List Char) : Option IP := do
  let (a, s) ← parseOctet 0 s
  let (b, s) ← parseOctet 1 s
  let (c, s) ← parseOctet 2 s
  let (d, s) ← parseOctet 3 s
  if s.isEmpty then some (IP.ofOctets a b c d) else none

/-- `net.ParseCIDR` on an IPv4 literal: the address before the first `/`, a prefix length of
at most 32 after it, and the network `ip.Mask(m)` with `m = CIDRMask(n, 32)`; `none` where
Go returns an error (and on IPv6 literals). -/
def parseCIDR (s : String) : Option IPNet :=
  match s.toList.span (· != '/') with
  | (_, []) => none
  | (addr, _ :: mask) =>
    (parseIPv4 addr).bind fun ip =>
      match dtoi mask with
      | (n, i, ok) =>
        if !ok || i != mask.length || n > 32 then none
        else some ⟨ip &&& (cidrMask n).bits, cidrMask n⟩

example : parseCIDR "10.252.0.0/17" = some ⟨IP.ofOctets 10 252 0 0, cidrMask 17⟩ := by decide
example : parseCIDR "10.252.1.7/17" = some ⟨IP.ofOctets 10 252 0 0, cidrMask 17⟩ := by decide
example : parseCIDR "10.252.0.0/33" = none := by decide

end CsiNetwork

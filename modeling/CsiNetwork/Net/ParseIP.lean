import Mathlib.Data.List.Basic
import CsiNetwork.Net.ParseCIDR

/-!
# `net.ParseIP` and `net.ParseCIDR` on both address families

`init` checks its address flags with `net.ParseIP` and its CIDR flags with `net.ParseCIDR`, and
Go accepts IPv6 literals in both. This module follows Go 1.16's `parseIPv6` and `xtoi` over the
characters of the text, and puts them together with `parseIPv4` as `ParseIP` and `ParseCIDR`
do (`parseIP`, `netParseCIDR`).

- `parseIPv6` returns sixteen bytes, each below 256, whenever it accepts a text
  (`parseIPv6_bytes`): its loop keeps at most sixteen bytes with the ellipsis among them
  (`parseIPv6Loop_inv`), and the end of the parse fills the missing ones with zeros;
- the IPv4 networks the rest of the model reads are what `ParseCIDR` returns on IPv4 literals
  (`parseCIDR_eq_netParseCIDR`);
- a text `ParseCIDR` accepts, of either family, has exactly one slash, with only digits after
  it (`netParseCIDR_slash`).
-/

namespace CsiNetwork

/-! ## `parseIPv6` -/

/-- The value of a hexadecimal digit. -/
def hexValue (c : Char) : Option Nat :=
  if '0' ≤ c ∧ c ≤ '9' then some (c.toNat - '0'.toNat)
  else if 'a' ≤ c ∧ c ≤ 'f' then some (c.toNat - 'a'.toNat + 10)
  else if 'A' ≤ c ∧ c ≤ 'F' then some (c.toNat - 'A'.toNat + 10)
  else none

/-- Go's `xtoi` from `n` after `i` digits: the hexadecimal number at the start of the input,
the number of digits read, and whether at least one digit was read before `big`. -/
def xtoiFrom (n i : Nat) : List Char → Nat × Nat × Bool
  | c :: cs =>
    match hexValue c with
    | some d => if n * 16 + d ≥ big then (0, i, false) else xtoiFrom (n * 16 + d) (i + 1) cs
    | none => if i = 0 then (0, 0, false) else (n, i, true)
  | [] => if i = 0 then (0, 0, false) else (n, i, true)

/-- Go's `xtoi`. -/
def xtoi (s : List Char) : Nat × Nat × Bool := xtoiFrom 0 0 s

/-- The four bytes of an IPv4 address, the last four of its 16-byte form. -/
def IP.octets (a : IP) : List Nat :=
  [a.toNat / 2 ^ 24, a.toNat / 2 ^ 16 % 256, a.toNat / 2 ^ 8 % 256, a.toNat % 256]

/-- The loop of Go's `parseIPv6`, for at most `fuel` more rounds: `ip` holds the bytes read so
far (`i` is its length), `ellipsis` where `::` stood, and `s` the rest of the input. A round
reads a group of hexadecimal digits and the colons after it, or the trailing IPv4 address. The
result is the state when the loop stops, or `none` where Go returns `nil`. A round that goes on
adds two bytes, so eight rounds take `i` to `IPv6len`. -/
def parseIPv6Loop : Nat → List Nat → Option Nat → List Char →
    Option (List Nat × Option Nat × List Char)
  | 0, ip, ellipsis, s => some (ip, ellipsis, s)
  | fuel + 1, ip, ellipsis, s =>
    if ip.length < 16 then
      match xtoi s with
      | (n, c, ok) =>
        if !ok || n > 0xFFFF then none
        else if (s.drop c).head? = some '.' then
          -- the trailing IPv4 address: in the last four bytes, or after an ellipsis
          if ellipsis.isNone && ip.length ≠ 12 then none
          else if ip.length + 4 > 16 then none
          else (parseIPv4 s).map fun ip4 => (ip ++ ip4.octets, ellipsis, [])
        else
          let ip' := ip ++ [n / 256, n % 256]
          match s.drop c with
          | [] => some (ip', ellipsis, [])
          | [_] => none
          | ':' :: ':' :: rest =>
            if ellipsis.isSome then none
            else if rest.isEmpty then some (ip', some ip'.length, [])
            else parseIPv6Loop fuel ip' (some ip'.length) rest
          | ':' :: rest => parseIPv6Loop fuel ip' ellipsis rest
          | _ :: _ => none
    else some (ip, ellipsis, s)

/-- The end of Go's `parseIPv6`: the whole input must have been read; with fewer than
`IPv6len` bytes the ellipsis must be there and stands for the missing zero bytes, with all of
them it must not be. -/
def expandEllipsis : List Nat × Option Nat × List Char → Option (List Nat)
  | (ip, ellipsis, s) =>
    if !s.isEmpty then none
    else if ip.length < 16 then
      ellipsis.map fun e => ip.take e ++ List.replicate (16 - ip.length) 0 ++ ip.drop e
    else if ellipsis.isSome then none
    else some ip

/-- Go's `parseIPv6`: the sixteen bytes of an IPv6 literal, or `none` where Go returns `nil`.
A leading `::` is an ellipsis at 0, and `::` alone is the zero address. -/
def parseIPv6 : List Char → Option (List Nat)
  | [':', ':'] => some (List.replicate 16 0)
  | ':' :: ':' :: s => (parseIPv6Loop 8 [] (some 0) s).bind expandEllipsis
  | s => (parseIPv6Loop 8 [] none s).bind expandEllipsis

example : parseIPv6 "::1".data = some (List.replicate 15 0 ++ [1]) := by decide

example : parseIPv6 "2001:db8::ff00:42:8329".data =
    some [0x20, 0x01, 0x0d, 0xb8, 0, 0, 0, 0, 0, 0, 0xff, 0x00, 0x00, 0x42, 0x83, 0x29] := by
  decide

example : parseIPv6 "::ffff:10.0.0.1".data = some (List.replicate 10 0 ++ [255, 255, 10, 0, 0, 1]) := by
  decide

example : parseIPv6 "1::2::3".data = none ∧ parseIPv6 "1:2:3:4:5:6:7:8:9".data = none ∧
    parseIPv6 "1:2:3:4:5:6:7:8::".data = none ∧ parseIPv6 "10.0.0.1".data = none := by
  decide

/-! ## What `parseIPv6` returns -/

/-- What the loop keeps: an even number of bytes, at most sixteen, each below 256, with the
ellipsis among them. -/
def LoopInv (ip : List Nat) (ellipsis : Option Nat) : Prop :=
  ip.length ≤ 16 ∧ ip.length % 2 = 0 ∧ (∀ b ∈ ip, b < 256) ∧ ∀ e ∈ ellipsis, e ≤ ip.length

section LoopInv

variable {ip : List Nat} {ellipsis : Option Nat}

/-- A group of at most four hexadecimal digits adds two bytes, and the ellipsis may stand
after them. -/
theorem LoopInv.group {n : Nat} {ellipsis' : Option Nat} (h : LoopInv ip ellipsis)
    (hlt : ip.length < 16) (hn : n ≤ 0xFFFF) (he : ∀ e ∈ ellipsis', e ≤ ip.length + 2) :
    LoopInv (ip ++ [n / 256, n % 256]) ellipsis' := by
  obtain ⟨-, heven, hb, -⟩ := h
  have hlen : (ip ++ [n / 256, n % 256]).length = ip.length + 2 := by simp
  refine ⟨by omega, by omega, fun b hb' => ?_, fun e he' => hlen ▸ he e he'⟩
  rcases List.mem_append.1 hb' with hb' | hb'
  · exact hb b hb'
  · simp only [List.mem_cons, List.mem_singleton, List.not_mem_nil, or_false] at hb'
    omega

/-- The trailing IPv4 address adds its four bytes. -/
theorem LoopInv.octets (a : IP) (h : LoopInv ip ellipsis) (hroom : ip.length + 4 ≤ 16) :
    LoopInv (ip ++ a.octets) ellipsis := by
  obtain ⟨-, heven, hb, he⟩ := h
  have := a.isLt
  have hlen : (ip ++ a.octets).length = ip.length + 4 := by simp [IP.octets]
  refine ⟨by omega, by omega, fun b hb' => ?_, fun e he' => by have := he e he'; omega⟩
  rcases List.mem_append.1 hb' with hb' | hb'
  · exact hb b hb'
  · simp only [IP.octets, List.mem_cons, List.mem_singleton, List.not_mem_nil, or_false] at hb'
    omega

end LoopInv

/-- **The loop keeps its invariant.** From bytes and an ellipsis that satisfy it, every state
the loop stops in satisfies it. -/
theorem parseIPv6Loop_inv : ∀ (fuel : Nat) (ip : List Nat) (ellipsis : Option Nat)
    (s : List Char) {ip' : List Nat} {ellipsis' : Option Nat} {s' : List Char},
    LoopInv ip ellipsis → parseIPv6Loop fuel ip ellipsis s = some (ip', ellipsis', s') →
      LoopInv ip' ellipsis'
  | 0, _, _, _, _, _, _, hinv, h => by
    cases h
    exact hinv
  | fuel + 1, ip, ellipsis, s, ip', e', s', hinv, h => by
    rcases hx : xtoi s with ⟨n, c, ok⟩
    simp only [parseIPv6Loop, hx] at h
    by_cases hlt : ip.length < 16
    swap
    · rw [if_neg hlt] at h
      cases h
      exact hinv
    by_cases hbad : (!ok || decide (n > 0xFFFF)) = true
    · simp only [if_pos hlt, if_pos hbad] at h
      cases h
    have hn : n ≤ 0xFFFF := by
      simp only [Bool.or_eq_true, not_or, decide_eq_true_eq] at hbad
      omega
    -- the ellipsis read so far stays among the bytes after a group
    have hkeep : ∀ e ∈ ellipsis, e ≤ ip.length + 2 := fun e he => by
      have := hinv.2.2.2 e he
      omega
    simp only [if_pos hlt, if_neg hbad] at h
    by_cases hdot : (List.drop c s).head? = some '.'
    · -- the trailing IPv4 address
      rw [if_pos hdot] at h
      split_ifs at h with hpos hroom
      obtain ⟨a, -, h⟩ := Option.map_eq_some'.1 h
      cases h
      exact hinv.octets a (by omega)
    · -- a group and the colons after it
      rw [if_neg hdot] at h
      split at h
      · cases h
        exact hinv.group hlt hn hkeep
      · cases h
      · -- an ellipsis after the group
        have hafter : ∀ e ∈ some (ip ++ [n / 256, n % 256]).length, e ≤ ip.length + 2 :=
          fun e he => by rw [← Option.mem_some_iff.1 he]; simp
        split_ifs at h
        · cases h
          exact hinv.group hlt hn hafter
        · exact parseIPv6Loop_inv fuel _ _ _ (hinv.group hlt hn hafter) h
      · exact parseIPv6Loop_inv fuel _ _ _ (hinv.group hlt hn hkeep) h
      · cases h

/-- The end of the parse turns a state of the loop into sixteen bytes below 256. -/
theorem expandEllipsis_bytes {ip : List Nat} {ellipsis : Option Nat} {s : List Char}
    {b : List Nat} (hinv : LoopInv ip ellipsis) (h : expandEllipsis (ip, ellipsis, s) = some b) :
    b.length = 16 ∧ ∀ x ∈ b, x < 256 := by
  obtain ⟨hlen, -, hb, he⟩ := hinv
  rw [expandEllipsis] at h
  split_ifs at h with hs hlt
  · -- the ellipsis stands for the missing zero bytes
    obtain ⟨e, he', rfl⟩ := Option.map_eq_some'.1 h
    have := he e he'
    refine ⟨by simp only [List.length_append, List.length_take, List.length_replicate,
      List.length_drop]; omega, fun x hx => ?_⟩
    simp only [List.mem_append, List.mem_replicate] at hx
    rcases hx with (hx | ⟨-, rfl⟩) | hx
    exacts [hb x (List.mem_of_mem_take hx), by decide, hb x (List.mem_of_mem_drop hx)]
  · cases h
    exact ⟨by omega, hb⟩

/-- **`parseIPv6` returns sixteen bytes.** Whenever it accepts a text, the result has
`IPv6len` bytes, each below 256. -/
theorem parseIPv6_bytes {s : List Char} {b : List Nat} (h : parseIPv6 s = some b) :
    b.length = 16 ∧ ∀ x ∈ b, x < 256 := by
  unfold parseIPv6 at h
  split at h
  · cases h
    exact ⟨rfl, fun x hx => by rw [(List.mem_replicate.1 hx).2]; decide⟩
  all_goals
    obtain ⟨⟨ip, ellipsis, s'⟩, hloop, hend⟩ := Option.bind_eq_some.1 h
    exact expandEllipsis_bytes (parseIPv6Loop_inv 8 [] _ _
      ⟨by decide, rfl, by simp, fun e he => by simp_all⟩ hloop) hend

/-! ## `ParseIP` and `ParseCIDR` -/

/-- A `net.IP` as `ParseIP` returns it: an IPv4 address, or the sixteen bytes of an IPv6
one. -/
inductive ParsedIP where
  | v4 (a : IP)
  | v6 (bytes : List Nat)
deriving DecidableEq, Repr

/-- `net.ParseIP`: the first `.` or `:` of the text decides the family. -/
def parseIP (s : String) : Option ParsedIP :=
  match s.data.find? fun c => c == '.' || c == ':' with
  | some '.' => (parseIPv4 s.data).map .v4
  | some _ => (parseIPv6 s.data).map .v6
  | none => none

example : parseIP "10.102.3.1" = some (.v4 (IP.ofOctets 10 102 3 1)) ∧
    parseIP "fe80::1" = some (.v6 ([0xfe, 0x80] ++ List.replicate 13 0 ++ [1])) ∧
    parseIP "ncn-m001" = none := by
  decide

/-- `net.ParseCIDR` for both families: the address before the first `/`, read by `parseIPv4` or
else by `parseIPv6`, and a prefix length of at most `8 * iplen` after it. Returns the address
and the prefix length, from which Go builds the network `ip.Mask(CIDRMask(n, 8 * iplen))`, or
`none` where Go returns an error. -/
def netParseCIDR (s : String) : Option (ParsedIP × Nat) :=
  match s.toList.span (· != '/') with
  | (_, []) => none
  | (addr, _ :: mask) =>
    let parsed : Option (ParsedIP × Nat) :=
      match parseIPv4 addr with
      | some ip => some (.v4 ip, 32)
      | none => (parseIPv6 addr).map fun ip => (.v6 ip, 128)
    parsed.bind fun (ip, bits) =>
      match dtoi mask with
      | (n, i, ok) => if !ok || i != mask.length || n > bits then none else some (ip, n)

example : netParseCIDR "10.102.3.1/24" = some (.v4 (IP.ofOctets 10 102 3 1), 24) ∧
    netParseCIDR "fd00::/64" = some (.v6 ([0xfd] ++ List.replicate 15 0), 64) ∧
    netParseCIDR "fd00::/129" = none := by
  decide

/-- **The engine's `parseCIDR` is the IPv4 branch of `ParseCIDR`.** It returns the masked
network exactly where `ParseCIDR` returns an IPv4 address and a prefix length, and nothing on
IPv6 literals. -/
theorem parseCIDR_eq_netParseCIDR (s : String) :
    parseCIDR s = (netParseCIDR s).bind fun r =>
      match r with
      | (.v4 ip, n) => some ⟨ip &&& (cidrMask n).bits, cidrMask n⟩
      | (.v6 _, _) => none := by
  rw [parseCIDR, netParseCIDR]
  generalize s.toList.span (· != '/') = parts
  rcases parts with ⟨addr, _ | ⟨c, mask⟩⟩
  · rfl
  · rcases hd : dtoi mask with ⟨n, i, ok⟩
    rcases h4 : parseIPv4 addr with _ | ip
    · rcases h6 : parseIPv6 addr with _ | ip <;>
        simp only [h4, h6, hd, Option.none_bind, Option.map_none', Option.map_some',
          Option.some_bind]
      split_ifs <;> rfl
    · simp only [h4, hd, Option.some_bind]
      split_ifs <;> rfl

/-! ## What `ParseCIDR` accepts -/

/-- When `dtoi` reports success and has read the whole input, the input is all digits. -/
theorem isDigit_of_dtoiFrom : ∀ (n i : Nat) (cs : List Char), (dtoiFrom n i cs).2.2 = true →
    (dtoiFrom n i cs).2.1 = i + cs.length → ∀ c ∈ cs, c.isDigit = true
  | _, _, [], _, _, _, h => absurd h (List.not_mem_nil _)
  | n, i, c :: cs, hok, hlen, d, hd => by
    by_cases hc : c.isDigit = true
    · by_cases hbig : n * 10 + (c.toNat - '0'.toNat) ≥ big
      · rw [dtoiFrom, if_pos hc, if_pos hbig] at hok
        exact absurd hok Bool.false_ne_true
      · rw [dtoiFrom, if_pos hc, if_neg hbig] at hok hlen
        rcases List.mem_cons.1 hd with rfl | hd
        exacts [hc, isDigit_of_dtoiFrom _ _ cs hok (by simp only [List.length_cons] at hlen; omega)
          d hd]
    · rw [dtoiFrom, if_neg hc] at hlen
      split at hlen <;> simp only [List.length_cons] at hlen <;> omega

/-- **What `ParseCIDR` accepts has one slash.** A text of either family that `ParseCIDR`
accepts is an address without a slash, a slash, and a prefix length made of digits only. -/
theorem netParseCIDR_slash {s : String} {r : ParsedIP × Nat} (h : netParseCIDR s = some r) :
    ∃ addr mask : List Char, s.data = addr ++ '/' :: mask ∧ '/' ∉ addr ∧
      ∀ c ∈ mask, c.isDigit = true := by
  rw [netParseCIDR, List.span_eq_take_drop] at h
  split at h
  · cases h
  · rename_i addr c mask heq
    obtain ⟨htake, hdrop⟩ := Prod.mk.inj heq
    have hc : c = '/' := by
      have := List.head?_dropWhile_not (· != '/') s.toList
      rw [hdrop] at this
      simpa using this
    obtain ⟨⟨ip, bits⟩, -, hmask⟩ := Option.bind_eq_some.1 h
    rcases hd : dtoi mask with ⟨m, i, ok⟩
    rw [hd] at hmask
    dsimp only at hmask
    split_ifs at hmask with hbad
    simp only [Bool.or_eq_true, Bool.not_eq_true', bne_iff_ne, ne_eq, decide_eq_true_eq,
      not_or, not_not, Bool.not_eq_false] at hbad
    refine ⟨addr, mask, ?_, fun hmem => ?_, isDigit_of_dtoiFrom 0 0 mask ?_ ?_⟩
    · rw [← hc, ← htake, ← hdrop]
      exact (List.takeWhile_append_dropWhile _ _).symm
    · exact absurd (List.mem_takeWhile_imp (htake ▸ hmem)) (by decide)
    · simpa [dtoi] using congrArg (·.2.2) hd ▸ hbad.1.1
    · simpa [dtoi] using congrArg (·.2.1) hd ▸ hbad.1.2

end CsiNetwork

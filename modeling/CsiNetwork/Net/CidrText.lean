import CsiNetwork.Net.ParseCIDR
import CsiNetwork.Ipam.Block
import CsiNetwork.Strings.Decimal

/-!
# `IPNet.String` reads back through `net.ParseCIDR`

The SLS generator writes each subnet's block as `subnet.CIDR.String()`, and the MetalLB
configuration writes its address pools the same way; whoever reads them back calls
`net.ParseCIDR`. The text is the address's four octets in decimal joined by dots, a slash,
and the prefix length. Each octet is below 256 and the prefix length at most 32, so `dtoi`
reads every number whole, and parsing the text gives back the block: the subnet's address
masked, with the subnet's mask; for an aligned block that is the subnet's own CIDR, and only
then (`parseCIDR_toString`).
-/

namespace CsiNetwork

/-! ## `dtoi` over the digits `%d` writes -/

theorem isDigit_of_mem_repr {n : Nat} {c : Char} (hc : c ∈ (Nat.repr n).data) :
    c.isDigit = true :=
  (show ∀ c ∈ "0123456789".data, c.isDigit = true by decide) c (mem_repr hc)

/-- `dtoi` reads a run of digits whole when the number stays below `big` and no digit
follows it. -/
theorem dtoiFrom_append (n i : Nat) :
    ∀ (ds tail : List Char), (∀ c ∈ ds, c.isDigit = true) → n * 10 ^ ds.length + decimalValue ds < big → (∀ c ∈ tail.head?, c.isDigit = false) →
    0 < i + ds.length →
    dtoiFrom n i (ds ++ tail) = (n * 10 ^ ds.length + decimalValue ds, i + ds.length, true)
  | [], tail, _, _, ht, hi => by
    have hi : i ≠ 0 := Nat.pos_iff_ne_zero.1 (by simpa using hi)
    cases tail with
    | nil => simp [dtoiFrom, decimalValue, hi]
    | cons c cs => simp [dtoiFrom, decimalValue, hi, ht c rfl]
  | d :: ds, tail, hd, hlt, ht, _ => by
    have hval : (n * 10 + digitValue d) * 10 ^ ds.length + decimalValue ds =
        n * 10 ^ (d :: ds).length + decimalValue (d :: ds) := by
      simp only [decimalValue, List.length_cons, Nat.pow_succ]
      ring
    have hsmall : n * 10 + digitValue d < big := by
      have := Nat.le_mul_of_pos_right (n * 10 + digitValue d) (Nat.pos_pow_of_pos ds.length
        (show 0 < 10 by decide))
      omega
    rw [List.cons_append, dtoiFrom, if_pos (hd d (List.mem_cons_self _ _)),
      if_neg (show ¬n * 10 + (d.toNat - '0'.toNat) ≥ big from Nat.not_le.2 hsmall)]
    show dtoiFrom (n * 10 + digitValue d) (i + 1) (ds ++ tail) = _
    rw [dtoiFrom_append (n * 10 + digitValue d) (i + 1) ds tail
      (fun c hc => hd c (List.mem_cons_of_mem _ hc)) (hval ▸ hlt) ht (by omega), hval]
    simp only [List.length_cons, Nat.add_assoc, Nat.add_comm 1]

/-- `dtoi` reads back a number `%d` wrote, when it is below `big` and no digit follows. -/
theorem dtoi_repr_append (a : Nat) (ha : a < big) (tail : List Char)
    (ht : ∀ c ∈ tail.head?, c.isDigit = false) :
    dtoi ((Nat.repr a).data ++ tail) = (a, (Nat.repr a).data.length, true) := by
  have hpos : 0 < (Nat.repr a).data.length := List.length_pos.2 (repr_data_ne_nil a)
  simpa [data_repr, decimalValue_toDigits] using
    dtoiFrom_append 0 0 (Nat.repr a).data tail (fun _ => isDigit_of_mem_repr)
      (by simpa [data_repr, decimalValue_toDigits] using ha) ht (by simpa using hpos)

/-! ## The four octets -/

theorem parseOctet_zero_repr (a : Nat) (ha : a ≤ 0xFF) (tail : List Char)
    (ht : ∀ c ∈ tail.head?, c.isDigit = false) :
    parseOctet 0 ((Nat.repr a).data ++ tail) = some (a, tail) := by
  have hd := dtoi_repr_append a (by simp only [big]; omega) tail ht
  obtain ⟨c, cs, hcs⟩ := List.exists_cons_of_ne_nil (repr_data_ne_nil a)
  rw [hcs, List.cons_append] at hd ⊢
  simp [parseOctet, hd, Nat.not_lt.2 ha]

theorem parseOctet_dot_repr (i a : Nat) (hi : i ≠ 0) (ha : a ≤ 0xFF) (tail : List Char)
    (ht : ∀ c ∈ tail.head?, c.isDigit = false) :
    parseOctet i ('.' :: ((Nat.repr a).data ++ tail)) = some (a, tail) := by
  have hd := dtoi_repr_append a (by simp only [big]; omega) tail ht
  simp [parseOctet, hi, hd, Nat.not_lt.2 ha]

theorem data_toString_ip (a : IP) : a.toString.data =
    (Nat.repr (a.toNat / 2 ^ 24)).data ++ '.' :: ((Nat.repr (a.toNat / 2 ^ 16 % 256)).data ++
      '.' :: ((Nat.repr (a.toNat / 2 ^ 8 % 256)).data ++
        '.' :: (Nat.repr (a.toNat % 256)).data)) := by
  simp [IP.toString, String.intercalate, String.intercalate.go]

/-- The octets of an address give it back. -/
theorem ofOctets_octets (a : IP) :
    IP.ofOctets (a.toNat / 2 ^ 24) (a.toNat / 2 ^ 16 % 256) (a.toNat / 2 ^ 8 % 256)
      (a.toNat % 256) = a := by
  apply BitVec.eq_of_toNat_eq
  have := a.isLt
  rw [IP.ofOctets, BitVec.toNat_ofNat]
  omega

theorem parseIPv4_toString (a : IP) : parseIPv4 a.toString.data = some a := by
  have hdot : ∀ rest : List Char, ∀ c ∈ ('.' :: rest).head?, c.isDigit = false :=
    fun _ c hc => by cases hc; rfl
  have h1 : a.toNat / 2 ^ 24 ≤ 0xFF := by have := a.isLt; omega
  have h4 := parseOctet_dot_repr 3 (a.toNat % 256) (by decide) (by omega) [] (by simp)
  rw [List.append_nil] at h4
  rw [data_toString_ip, parseIPv4]
  simp only [parseOctet_zero_repr _ h1 _ (hdot _),
    parseOctet_dot_repr 1 (a.toNat / 2 ^ 16 % 256) (by decide) (by omega) _ (hdot _),
    parseOctet_dot_repr 2 (a.toNat / 2 ^ 8 % 256) (by decide) (by omega) _ (hdot _),
    h4, Option.bind_eq_bind,
    Option.some_bind, List.isEmpty_nil, if_true, ofOctets_octets]

/-! ## The whole block -/

theorem mem_toString_ip {a : IP} {c : Char} (hc : c ∈ a.toString.data) :
    c ∈ ".0123456789".data := by
  rw [data_toString_ip] at hc
  simp only [List.mem_append, List.mem_cons] at hc
  rcases hc with hc | rfl | hc | rfl | hc | rfl | hc
  all_goals first | exact List.mem_cons_self _ _ | exact List.mem_cons_of_mem _ (mem_repr hc)

theorem cidrMask_self (m : IPMask) : cidrMask m.ones = m := by
  simp [cidrMask, m.ones_le]

/-- Parsing a network's text gives its address masked, with its mask. -/
theorem parseCIDR_toString_masked (n : IPNet) :
    parseCIDR n.toString = some ⟨Ipam.networkAddr n, n.mask⟩ := by
  have hip : ∀ c ∈ n.ip.toString.data, (c != '/') = true := fun c hc =>
    (show ∀ c ∈ ".0123456789".data, (c != '/') = true by decide) c (mem_toString_ip hc)
  have hmask := dtoi_repr_append n.mask.ones (by have := n.mask.ones_le; simp only [big]; omega)
    [] (by simp)
  rw [List.append_nil] at hmask
  have hsplit : n.toString.toList = n.ip.toString.data ++ '/' :: (Nat.repr n.mask.ones).data := by
    simp [IPNet.toString, String.toList]
  rw [parseCIDR, hsplit, List.span_eq_take_drop, List.takeWhile_append_of_pos hip,
    List.dropWhile_append_of_pos hip]
  simp [parseIPv4_toString, hmask, n.mask.ones_le, cidrMask_self, Ipam.networkAddr]

/-- **`ParseCIDR` reads back what `IPNet.String` writes.** For every network, parsing its
text gives the network whose address is its address masked and whose mask is its mask, so the
text parses back to the network itself exactly when it is aligned. -/
theorem parseCIDR_toString (n : IPNet) :
    parseCIDR n.toString = some ⟨Ipam.networkAddr n, n.mask⟩ ∧
      (parseCIDR n.toString = some n ↔ n.Aligned) := by
  refine ⟨parseCIDR_toString_masked n, ?_⟩
  rw [parseCIDR_toString_masked, Option.some_inj, IPNet.Aligned]
  cases n
  simp

example : (IPNet.toString ⟨IP.ofOctets 10 252 1 7, cidrMask 17⟩) = "10.252.1.7/17" ∧
    parseCIDR "10.252.1.7/17" = some ⟨IP.ofOctets 10 252 0 0, cidrMask 17⟩ := by
  decide

end CsiNetwork

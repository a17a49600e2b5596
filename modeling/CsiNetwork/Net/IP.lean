import Mathlib.Data.Nat.Bitwise

/-!
# IPv4 addresses, masks and networks

The engine works on Go's `net.IP`, `net.IPMask` and `net.IPNet`. Only IPv4 is in scope, so an
address is a 32-bit word, most significant octet first, and `net.IP.Equal` is equality of
words. A mask is kept as its prefix length: every mask the engine builds comes from
`net.ParseCIDR` or `net.CIDRMask` and is canonical. A network is an address with a mask; the
address need not be the first one of its block (the supernet configuration builds such
subnets on purpose), so alignment is a property (`IPNet.Aligned`, in `Ipam.Block`), not part of
the type.
-/

namespace CsiNetwork

/-- An IPv4 address as a 32-bit word. -/
abbrev IP := BitVec 32

/-- The address `a.b.c.d`. -/
def IP.ofOctets (a b c d : Nat) : IP := BitVec.ofNat 32 (((a * 256 + b) * 256 + c) * 256 + d)

/-- A canonical mask `net.CIDRMask(ones, 32)`, kept as its prefix length. -/
structure IPMask where
  ones : Nat
  ones_le : ones ≤ 32
deriving DecidableEq, Repr

/-- `net.CIDRMask(ones, 32)`. For `ones > 32` Go returns a nil mask, whose `Size` is 0. -/
def cidrMask (ones : Nat) : IPMask :=
  if h : ones ≤ 32 then ⟨ones, h⟩ else ⟨0, Nat.zero_le _⟩

/-- Number of host bits: a block with this mask holds `2 ^ hostBits` addresses. -/
def IPMask.hostBits (m : IPMask) : Nat := 32 - m.ones

/-- The mask as a word: `ones` one bits followed by `hostBits` zero bits. -/
def IPMask.bits (m : IPMask) : IP := BitVec.ofNat 32 (2 ^ 32 - 2 ^ m.hostBits)

/-- A `net.IPNet` holding an IPv4 address and a canonical mask. -/
structure IPNet where
  ip : IP
  mask : IPMask
deriving DecidableEq, Repr

theorem cidrMask_ones {ones : Nat} (h : ones ≤ 32) : (cidrMask ones).ones = ones := by
  simp [cidrMask, h]

theorem IPMask.hostBits_le (m : IPMask) : m.hostBits ≤ 32 := Nat.sub_le _ _

/-! ## Text form -/

/-- `net.IP.String` of a 4-byte address: its octets in decimal, joined by dots. -/
def IP.toString (a : IP) : String :=
  ".".intercalate ([a.toNat / 2 ^ 24, a.toNat / 2 ^ 16 % 256, a.toNat / 2 ^ 8 % 256,
    a.toNat % 256].map Nat.repr)

/-- `net.IPNet.String` of a canonical mask: the address, a slash and the prefix length. -/
def IPNet.toString (n : IPNet) : String := n.ip.toString ++ "/" ++ Nat.repr n.mask.ones

/-! ## Bit-level arithmetic of masks

The `toNat` forms below let later proofs reason about blocks with `omega` and `Nat` division
instead of bits. -/

theorem two_pow_hostBits_le (m : IPMask) : 2 ^ m.hostBits ≤ 2 ^ 32 :=
  Nat.pow_le_pow_right (by decide) m.hostBits_le

theorem two_pow_split (m : IPMask) : 2 ^ 32 = 2 ^ m.hostBits * 2 ^ m.ones := by
  rw [← Nat.pow_add, IPMask.hostBits, Nat.sub_add_cancel m.ones_le]

theorem IPMask.toNat_bits (m : IPMask) :
    m.bits.toNat = 2 ^ m.hostBits * (2 ^ m.ones - 1) := by
  have hpos := Nat.two_pow_pos m.hostBits
  rw [IPMask.bits, BitVec.toNat_ofNat, Nat.mod_eq_of_lt (by omega), Nat.mul_sub, Nat.mul_one,
    ← two_pow_split]

theorem IPMask.toNat_not_bits (m : IPMask) : (~~~m.bits).toNat = 2 ^ m.hostBits - 1 := by
  have := two_pow_hostBits_le m
  have hpos := Nat.two_pow_pos m.hostBits
  rw [BitVec.toNat_not, IPMask.bits, BitVec.toNat_ofNat, Nat.mod_eq_of_lt (by omega)]
  omega

private theorem testBit_div_two_pow {x h j : Nat} (hj : h ≤ j) :
    (x / 2 ^ h).testBit (j - h) = x.testBit j := by
  rw [← Nat.shiftRight_eq_div_pow, Nat.testBit_shiftRight, Nat.add_sub_cancel' hj]

/-- Masking a word clears its host bits. -/
theorem land_mask_eq {x : Nat} (m : IPMask) (hx : x < 2 ^ 32) :
    x &&& 2 ^ m.hostBits * (2 ^ m.ones - 1) = 2 ^ m.hostBits * (x / 2 ^ m.hostBits) := by
  have hh := m.ones_le
  apply Nat.eq_of_testBit_eq
  intro j
  rw [Nat.testBit_land, Nat.testBit_mul_pow_two, Nat.testBit_mul_pow_two,
    Nat.testBit_two_pow_sub_one]
  by_cases hj : m.hostBits ≤ j
  · rw [testBit_div_two_pow hj]
    by_cases hj32 : j < 32
    · simp [hj, show j - m.hostBits < m.ones by simp only [IPMask.hostBits] at *; omega]
    · have : x.testBit j = false :=
        Nat.testBit_lt_two_pow (lt_of_lt_of_le hx (Nat.pow_le_pow_right (by decide) (by omega)))
      simp [this]
  · simp [show ¬ j ≥ m.hostBits by omega]

/-- Setting the low `h` bits of a word rounds it up to the end of its `2 ^ h` block. -/
theorem lor_two_pow_sub_one (x h : Nat) :
    x ||| (2 ^ h - 1) = 2 ^ h * (x / 2 ^ h) + (2 ^ h - 1) := by
  rw [Nat.mul_add_lt_is_or (Nat.sub_lt (Nat.two_pow_pos h) Nat.one_pos)]
  apply Nat.eq_of_testBit_eq
  intro j
  rw [Nat.testBit_lor, Nat.testBit_lor, Nat.testBit_mul_pow_two, Nat.testBit_two_pow_sub_one]
  by_cases hj : j < h
  · simp [hj]
  · simp [hj, testBit_div_two_pow (show h ≤ j by omega), show j ≥ h by omega]

end CsiNetwork

import CsiNetwork.Net.IP

/-!
# Address arithmetic of `ipam`

The `ipam` package the engine calls (`Add`, `Broadcast`, `Contains`, `NetIPInSlice`) is not
part of the sources at hand; its functions are modelled from the spec's description of
them (§4.1). Addresses are treated as ordered 32-bit integers, as the spec asks.

Besides the definitions, this module gives each of them its `toNat` form, so that later
proofs reason about blocks with `omega` and never with bits.
-/

namespace CsiNetwork.Ipam

/-- Modelled from the spec: `ipam.Add`, the address `n` positions after `ip` in address
order; `n` may be negative, and the result wraps modulo `2 ^ 32`. -/
def add (ip : IP) (n : Int) : IP := ip + BitVec.ofInt 32 n

/-- Modelled from the spec: the network address of a block, its address masked by its
mask. -/
def networkAddr (n : IPNet) : IP := n.ip &&& n.mask.bits

/-- Modelled from the spec: `ipam.Broadcast`, the last address of the block, which is its
address OR'd with the inverted mask. -/
def broadcast (n : IPNet) : IP := n.ip ||| ~~~n.mask.bits

/-- Modelled from the spec: `ipam.Contains(outer, inner)`, true iff `inner`'s prefix is at
least as long as `outer`'s and `inner`'s network address, masked by `outer`'s mask, is
`outer`'s network address. -/
def contains (outer inner : IPNet) : Bool :=
  decide (outer.mask.ones ≤ inner.mask.ones) &&
    (networkAddr inner &&& outer.mask.bits == networkAddr outer)

/-- Modelled from the spec: two blocks overlap, partially or fully, when their address
ranges meet. -/
def overlaps (a b : IPNet) : Bool :=
  decide (networkAddr a ≤ broadcast b) && decide (networkAddr b ≤ broadcast a)

/-- Modelled from the spec: `ipam.NetIPInSlice`, the number of times `ip` occurs in
`addrs`, used as a membership test. -/
def netIPInSlice (ip : IP) (addrs : List IP) : Nat := addrs.count ip

end Ipam

open Ipam

/-- A block whose address is its network address, as every block that `net.ParseCIDR` or
`ipam.Free` builds. -/
def IPNet.Aligned (n : IPNet) : Prop := networkAddr n = n.ip

instance (n : IPNet) : Decidable n.Aligned := inferInstanceAs (Decidable (_ = _))

namespace Ipam

/-! ## `toNat` forms -/

theorem toNat_add_ofNat (ip : IP) (n : Nat) : (add ip n).toNat = (ip.toNat + n) % 2 ^ 32 := by
  simp only [add, BitVec.toNat_add, BitVec.toNat_ofInt]
  have : ((n : Int) % ((2 ^ 32 : Nat) : Int)).toNat = n % 2 ^ 32 := by omega
  rw [this, Nat.add_mod_mod]

/-- `add` does not wrap while the sum stays below `2 ^ 32`. -/
theorem toNat_add_of_lt {ip : IP} {n : Nat} (h : ip.toNat + n < 2 ^ 32) :
    (add ip n).toNat = ip.toNat + n := by
  rw [toNat_add_ofNat, Nat.mod_eq_of_lt h]

theorem add_add (ip : IP) (m k : Int) : add (add ip m) k = add ip (m + k) := by
  rw [add, add, add, BitVec.add_assoc, BitVec.ofInt_add]

theorem add_zero_eq (ip : IP) : add ip 0 = ip := BitVec.add_zero ip

theorem toNat_networkAddr (n : IPNet) :
    (networkAddr n).toNat = 2 ^ n.mask.hostBits * (n.ip.toNat / 2 ^ n.mask.hostBits) := by
  rw [networkAddr, BitVec.toNat_and, IPMask.toNat_bits, land_mask_eq _ n.ip.isLt]

theorem toNat_broadcast (n : IPNet) :
    (broadcast n).toNat =
      2 ^ n.mask.hostBits * (n.ip.toNat / 2 ^ n.mask.hostBits) + (2 ^ n.mask.hostBits - 1) := by
  rw [broadcast, BitVec.toNat_or, IPMask.toNat_not_bits, lor_two_pow_sub_one]

/-- A block's network address is at or below its address. -/
theorem toNat_networkAddr_le (n : IPNet) : (networkAddr n).toNat ≤ n.ip.toNat := by
  rw [toNat_networkAddr]; exact Nat.mul_div_le _ _

/-- A block ends `2 ^ hostBits - 1` addresses after its network address. -/
theorem toNat_broadcast_eq (n : IPNet) :
    (broadcast n).toNat = (networkAddr n).toNat + (2 ^ n.mask.hostBits - 1) := by
  rw [toNat_broadcast, toNat_networkAddr]

/-- A block fits below `2 ^ 32`. -/
theorem networkAddr_add_size_le (n : IPNet) :
    (networkAddr n).toNat + 2 ^ n.mask.hostBits ≤ 2 ^ 32 := by
  have hlt : n.ip.toNat / 2 ^ n.mask.hostBits < 2 ^ n.mask.ones :=
    Nat.div_lt_of_lt_mul (by rw [← two_pow_split]; exact n.ip.isLt)
  calc (networkAddr n).toNat + 2 ^ n.mask.hostBits
      = 2 ^ n.mask.hostBits * (n.ip.toNat / 2 ^ n.mask.hostBits + 1) := by
        rw [toNat_networkAddr, Nat.mul_succ]
    _ ≤ 2 ^ n.mask.hostBits * 2 ^ n.mask.ones := Nat.mul_le_mul_left _ hlt
    _ = 2 ^ 32 := (two_pow_split _).symm

theorem overlaps_comm (a b : IPNet) : overlaps a b = overlaps b a := by
  rw [overlaps, overlaps, Bool.and_comm]

theorem netIPInSlice_pos_iff {ip : IP} {addrs : List IP} : 0 < netIPInSlice ip addrs ↔ ip ∈ addrs :=
  List.count_pos_iff

end CsiNetwork.Ipam

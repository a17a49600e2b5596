import CsiNetwork.Csi.Subnet

/-!
# Which address `AddReservation` assigns

`AddReservation` makes one pass over the reserved addresses in list order, moving its
candidate on each time it meets it (`skipReserved`). This module says what that pass
computes:

- on a list in ascending order, the least free address at or above the start
  (`skipReserved_isLeastFree`): the pass keeps the invariant that every address between the
  start and the candidate is reserved;
- on the consecutive run the calls themselves build, the address after the run
  (`skipReserved_consecutive`), so `n` calls from an empty subnet assign the `n` addresses
  after the gateway, whatever `n` (the sums wrap modulo `2 ^ 32`);
- on other lists, one pass is not enough: after a pinned reservation the next calls can
  hand out the pinned address again (`addReservation_collides_after_pin`);
- on a block whose address lies `off` addresses past its network address, a call lands
  strictly between the gateway and the broadcast address while the reservations leave `off`
  and two more addresses (`addReservation_strictly_inside_block`), and so do the calls from an
  empty subnet (`addCalls_strictly_inside_block`); the capacity check alone admits calls that
  land on or past the broadcast address (`addCalls_reach_broadcast`).

`ReserveNetMgmtIPs` is such a run of calls, one per switch and stub, so on a subnet without
reservations it reserves consecutive addresses from `CIDR.IP + 2` (`reserveNetMgmtIPs_of_nil`).
-/

namespace CsiNetwork

open Ipam

namespace IPV4Subnet

/-- `a` is the least address at or above `lo`, compared as integers, that is not in
`reserved`. -/
def IsLeastFree (lo : IP) (reserved : List IP) (a : IP) : Prop :=
  lo.toNat ≤ a.toNat ∧ a ∉ reserved ∧
    ∀ b : IP, lo.toNat ≤ b.toNat → b.toNat < a.toNat → b ∈ reserved

/-- A call that adds a reservation to a subnet. -/
inductive ReservationCall where
  | addReservation (name comment : String)
  | addReservationWithPin (name comment : String) (pin : BitVec 8)
deriving DecidableEq, Repr

/-- The subnet after one call. -/
def ReservationCall.apply (s : IPV4Subnet) : ReservationCall → IPV4Subnet
  | .addReservation name comment => (s.addReservation name comment).2
  | .addReservationWithPin name comment pin => (s.addReservationWithPin name comment pin).2

/-- The subnet after a sequence of calls, made in order. -/
def runCalls (s : IPV4Subnet) (calls : List ReservationCall) : IPV4Subnet :=
  calls.foldl ReservationCall.apply s

/-- `n` plain `AddReservation` calls with the given names and comments. -/
def addCalls (reqs : List (String × String)) : List ReservationCall :=
  reqs.map fun r => .addReservation r.1 r.2

/-! ## The pass over a sorted list -/

theorem isLeastFree_self {t : IP} {vs : List IP} (h : t ∉ vs) : IsLeastFree t vs t :=
  ⟨le_refl _, h, fun _ h1 h2 => absurd h2 (Nat.not_lt.2 h1)⟩

/-- The pass leaves a candidate alone when every address in the list is above it. -/
theorem skipReserved_of_lt {t : IP} :
    ∀ {vs : List IP}, (∀ v ∈ vs, t.toNat < v.toNat) → skipReserved t vs = t
  | [], _ => rfl
  | v :: vs, h => by
    have hne : t ≠ v := fun he => by
      have := h v (List.mem_cons_self _ _)
      rw [he] at this; omega
    rw [skipReserved_cons, if_neg hne,
      skipReserved_of_lt fun w hw => h w (List.mem_cons_of_mem _ hw)]

/-- An address that is not the least free one stays so under a new reservation. -/
theorem IsLeastFree.cons {t a v : IP} {vs : List IP} (h : IsLeastFree t vs a) (hv : a ≠ v) :
    IsLeastFree t (v :: vs) a :=
  ⟨h.1, List.mem_cons.not.2 (not_or.2 ⟨hv, h.2.1⟩),
    fun b hb1 hb2 => List.mem_cons_of_mem _ (h.2.2 b hb1 hb2)⟩

/-- When `t` is reserved, the least free address from `t + 1` is the least free from `t`. -/
theorem IsLeastFree.of_next {t a : IP} {vs : List IP} (hnext : (add t 1).toNat = t.toNat + 1)
    (h : IsLeastFree (add t 1) vs a) : IsLeastFree t (t :: vs) a := by
  obtain ⟨h1, h2, h3⟩ := h
  refine ⟨by omega, List.mem_cons.not.2 (not_or.2 ⟨fun he => ?_, h2⟩), fun b hb1 hb2 => ?_⟩
  · rw [he] at h1; omega
  · by_cases hb : b = t
    · exact hb ▸ List.mem_cons_self _ _
    · have : b.toNat ≠ t.toNat := fun he => hb (BitVec.eq_of_toNat_eq he)
      exact List.mem_cons_of_mem _ (h3 b (by omega) hb2)

/-- On an ascending list with a free address at or above `t`, the pass finds the least
one. -/
theorem skipReserved_isLeastFree {t : IP} {vs : List IP} (hs : vs.Pairwise (· ≤ ·))
    (hfree : ∃ a : IP, t.toNat ≤ a.toNat ∧ a ∉ vs) : IsLeastFree t vs (skipReserved t vs) := by
  induction vs generalizing t with
  | nil => exact isLeastFree_self (List.not_mem_nil t)
  | cons v vs ih =>
    obtain ⟨hv, hvs⟩ := List.pairwise_cons.1 hs
    simp only [BitVec.le_def] at hv
    obtain ⟨a, hta, ha⟩ := hfree
    rw [List.mem_cons, not_or] at ha
    rw [skipReserved_cons]
    by_cases htv : t = v
    · -- the candidate is reserved here: step past it and continue with the rest
      subst htv
      have hlt : t.toNat < a.toNat :=
        lt_of_le_of_ne hta fun h => ha.1 (BitVec.eq_of_toNat_eq h.symm)
      have hnext : (add t 1).toNat = t.toNat + 1 :=
        @toNat_add_of_lt t 1 (by have := a.isLt; omega)
      rw [if_pos rfl]
      exact (@ih (add t 1) hvs ⟨a, by omega, ha.2⟩).of_next hnext
    · rw [if_neg htv]
      have htv' : t.toNat ≠ v.toNat := fun h => htv (BitVec.eq_of_toNat_eq h)
      by_cases hlt : t.toNat < v.toNat
      · -- everything left is above the candidate: it is final
        rw [skipReserved_of_lt fun w hw => by have := hv w hw; omega]
        exact isLeastFree_self (List.mem_cons.not.2 (not_or.2
          ⟨htv, fun hm => by have := hv t hm; omega⟩))
      · -- an address below the candidate: it changes nothing
        have h := @ih t hvs ⟨a, hta, ha.2⟩
        exact h.cons fun he => by have := h.1; rw [he] at this; omega

/-! ## The runs the calls build -/

/-- On the run `t, t + 1, …, t + n - 1` the pass ends at `t + n`. -/
theorem skipReserved_consecutive (t : IP) (n : Nat) :
    skipReserved t ((List.range n).map fun (k : Nat) => add t k) = add t n := by
  induction n with
  | zero => exact (add_zero_eq t).symm
  | succ n ih =>
    rw [List.range_succ, List.map_append, skipReserved_append, ih, List.map_singleton,
      skipReserved_cons, if_pos rfl, add_add]
    rfl

@[simp] theorem cidr_apply (s : IPV4Subnet) (c : ReservationCall) : (c.apply s).cidr = s.cidr := by
  cases c <;> rfl

/-- Plain calls extend a consecutive run of reservations after the gateway. -/
theorem reservedIPs_runCalls_addCalls (reqs : List (String × String)) :
    ∀ (s : IPV4Subnet) (m : Nat),
      s.reservedIPs = (List.range m).map (fun (k : Nat) => add (add s.cidr.ip 2) k) →
      (runCalls s (addCalls reqs)).reservedIPs =
        (List.range (m + reqs.length)).map (fun (k : Nat) => add (add s.cidr.ip 2) k) := by
  induction reqs with
  | nil => intro s m h; exact h
  | cons r rs ih =>
    intro s m h
    have hstep := ih (ReservationCall.apply s (.addReservation r.1 r.2)) (m + 1) (by
      simp only [ReservationCall.apply, addReservation_eq, reservedIPs_append, h,
        skipReserved_consecutive, List.map_cons, List.map_nil, List.range_succ, List.map_append])
    simpa [runCalls, addCalls, Nat.add_assoc, Nat.add_comm 1] using hstep

/-- `n` calls on a subnet without reservations assign `CIDR.IP + 2, …, CIDR.IP + n + 1`. -/
theorem reservedIPs_addCalls_of_nil {s : IPV4Subnet} (hs : s.ipReservations = [])
    (reqs : List (String × String)) :
    (runCalls s (addCalls reqs)).reservedIPs =
      (List.range reqs.length).map (fun (k : Nat) => add (add s.cidr.ip 2) k) := by
  simpa using reservedIPs_runCalls_addCalls reqs s 0 (by simp [reservedIPs, hs])

/-! ## `AddReservation` on sorted lists -/

/-- **`AddReservation` assigns the least free address.** On a reservation list in ascending
address order with some free address at or above `CIDR.IP + 2`, a call appends exactly one
reservation, keeps everything else, and gives it the least address at or above
`CIDR.IP + 2` that no reservation holds; and `n` calls on a subnet without reservations
assign `CIDR.IP + 2, …, CIDR.IP + n + 1` in that order. -/
theorem addReservation_least_free :
    (∀ (s : IPV4Subnet) (name comment : String), s.reservedIPs.Pairwise (· ≤ ·) →
      (∃ a : IP, (add s.cidr.ip 2).toNat ≤ a.toNat ∧ a ∉ s.reservedIPs) →
      (s.addReservation name comment).2 =
          { s with ipReservations := s.ipReservations ++ [(s.addReservation name comment).1] } ∧
        (s.addReservation name comment).1.name = name ∧
        (s.addReservation name comment).1.comment = comment ∧
        IsLeastFree (add s.cidr.ip 2) s.reservedIPs (s.addReservation name comment).1.ipAddress) ∧
    (∀ (s : IPV4Subnet) (reqs : List (String × String)), s.ipReservations = [] →
      (runCalls s (addCalls reqs)).reservedIPs =
        (List.range reqs.length).map (fun (k : Nat) => add s.cidr.ip (k + 2))) := by
  refine ⟨fun s name comment hs hfree => ⟨rfl, rfl, rfl, skipReserved_isLeastFree hs hfree⟩,
    fun s reqs hs => ?_⟩
  rw [reservedIPs_addCalls_of_nil hs]
  simp only [add_add, Int.add_comm 2]

/-- A /24 subnet with pinned reservations at `.2`, `.3` and `.5`, in ascending order. -/
def gapSubnet : IPV4Subnet :=
  runCalls { cidr := ⟨IP.ofOctets 10 0 0 0, cidrMask 24⟩ }
    [.addReservationWithPin "a" "" 2, .addReservationWithPin "b" "" 3,
      .addReservationWithPin "c" "" 5]

theorem addReservation_least_free_in_gap :
    (gapSubnet.reservedIPs.Pairwise (· ≤ ·) ∧
      (add gapSubnet.cidr.ip 2).toNat ≤ (IP.ofOctets 10 0 0 4).toNat ∧
      IP.ofOctets 10 0 0 4 ∉ gapSubnet.reservedIPs) ∧
    IsLeastFree (add gapSubnet.cidr.ip 2) gapSubnet.reservedIPs
      (gapSubnet.addReservation "d" "").1.ipAddress :=
  ⟨⟨by decide, by decide, by decide⟩, (addReservation_least_free.1 gapSubnet "d" "" (by decide)
    ⟨IP.ofOctets 10 0 0 4, by decide, by decide⟩).2.2.2⟩

/-! ## Out of order: pinned reservations -/

/-- A /24 subnet after a reservation pinned to `.3` and one call, which took `.2`. -/
def pinnedThenOne : IPV4Subnet :=
  runCalls { cidr := ⟨IP.ofOctets 10 0 0 0, cidrMask 24⟩ }
    [.addReservationWithPin "pinned" "" 3, .addReservation "a" ""]

/-- The pass meets `.3` before `.2`, so the next call steps from `.2` to `.3` and stops:
it hands out the pinned address again. -/
theorem addReservation_collides_after_pin :
    pinnedThenOne.reservedIPs = [IP.ofOctets 10 0 0 3, IP.ofOctets 10 0 0 2] ∧
      (pinnedThenOne.addReservation "b" "").1.ipAddress = IP.ofOctets 10 0 0 3 := by
  decide

/-! ## Where the calls land in the block -/

/-- **Reservations stay strictly inside the block while one address is left.** On a subnet of
prefix at most 30 without reservations, whose address lies `off` addresses into its block, up
to `UsableHostAddresses() - 1 - off` calls give addresses strictly between the gateway
`CIDR.IP + 1` and the broadcast address. -/
theorem addCalls_strictly_inside_block (s : IPV4Subnet) (reqs : List (String × String))
    (hp : s.cidr.mask.ones ≤ 30) (hs : s.ipReservations = [])
    (hn : reqs.length + 1 + (s.cidr.ip.toNat - (networkAddr s.cidr).toNat) ≤
      s.usableHostAddresses) :
    ∀ a ∈ (runCalls s (addCalls reqs)).reservedIPs,
      (add s.cidr.ip 1).toNat < a.toNat ∧ a.toNat < (broadcast s.cidr).toNat := by
  have hsize := networkAddr_add_size_le s.cidr
  have hbc := toNat_broadcast_eq s.cidr
  have hnet := toNat_networkAddr_le s.cidr
  rw [usableHostAddresses_of_le hp] at hn
  rw [reservedIPs_addCalls_of_nil hs]
  intro a ha
  obtain ⟨k, hk, rfl⟩ := List.mem_map.1 ha
  have hk := List.mem_range.1 hk
  have hgw : (add s.cidr.ip 1).toNat = s.cidr.ip.toNat + 1 :=
    @toNat_add_of_lt s.cidr.ip 1 (by omega)
  have ha : (add (add s.cidr.ip 2) k).toNat = s.cidr.ip.toNat + (2 + k) := by
    rw [add_add, show (2 : Int) + k = ((2 + k : Nat) : Int) by push_cast; rfl]
    exact toNat_add_of_lt (by omega)
  omega

/-- The pass moves the candidate on by at most one address per reserved address. -/
theorem skipReserved_bounds : ∀ (vs : List IP) (t : IP), t.toNat + vs.length < 2 ^ 32 →
    t.toNat ≤ (skipReserved t vs).toNat ∧ (skipReserved t vs).toNat ≤ t.toNat + vs.length
  | [], t, _ => ⟨le_rfl, le_rfl⟩
  | v :: vs, t, h => by
    rw [List.length_cons] at h ⊢
    rw [skipReserved_cons]
    split
    · have hnext : (add t 1).toNat = t.toNat + 1 := @toNat_add_of_lt t 1 (by omega)
      have := skipReserved_bounds vs (add t 1) (by omega)
      omega
    · have := skipReserved_bounds vs t (by omega)
      omega

/-- **`AddReservation` never hands out the gateway or the broadcast address.** On a subnet of
prefix at most 30 whose address lies `off` addresses into its block, whatever its reservations
(pinned or not, in any order), as long as they leave `off + 2` usable addresses, a call gives
an address strictly between the gateway `CIDR.IP + 1` and the broadcast address, at most one
address past `CIDR.IP + 1 + len` for `len` reservations. -/
theorem addReservation_strictly_inside_block (s : IPV4Subnet) (name comment : String)
    (hp : s.cidr.mask.ones ≤ 30)
    (hn : s.ipReservations.length + 2 + (s.cidr.ip.toNat - (networkAddr s.cidr).toNat) ≤
      s.usableHostAddresses) :
    (add s.cidr.ip 1).toNat < (s.addReservation name comment).1.ipAddress.toNat ∧
      (s.addReservation name comment).1.ipAddress.toNat ≤
        s.cidr.ip.toNat + 2 + s.ipReservations.length ∧
      (s.addReservation name comment).1.ipAddress.toNat < (broadcast s.cidr).toNat := by
  have hsize := networkAddr_add_size_le s.cidr
  have hbc := toNat_broadcast_eq s.cidr
  have hnet := toNat_networkAddr_le s.cidr
  rw [usableHostAddresses_of_le hp] at hn
  have hgw : (add s.cidr.ip 1).toNat = s.cidr.ip.toNat + 1 :=
    @toNat_add_of_lt s.cidr.ip 1 (by omega)
  have h2 : (add s.cidr.ip 2).toNat = s.cidr.ip.toNat + 2 :=
    @toNat_add_of_lt s.cidr.ip 2 (by omega)
  have hlen : s.reservedIPs.length = s.ipReservations.length := List.length_map _ _
  have hb := skipReserved_bounds s.reservedIPs (add s.cidr.ip 2) (by omega)
  rw [addReservation_eq]
  dsimp only
  omega

theorem addReservation_strictly_inside_block_pinned :
    pinnedThenOne.cidr.mask.ones ≤ 30 ∧
      pinnedThenOne.ipReservations.length + 2 +
          (pinnedThenOne.cidr.ip.toNat - (networkAddr pinnedThenOne.cidr).toNat) ≤
        pinnedThenOne.usableHostAddresses ∧
    (add pinnedThenOne.cidr.ip 1).toNat < (pinnedThenOne.addReservation "b" "").1.ipAddress.toNat ∧
      (pinnedThenOne.addReservation "b" "").1.ipAddress.toNat ≤
        pinnedThenOne.cidr.ip.toNat + 2 + pinnedThenOne.ipReservations.length ∧
      (pinnedThenOne.addReservation "b" "").1.ipAddress.toNat <
        (broadcast pinnedThenOne.cidr).toNat :=
  ⟨by decide, by decide,
    addReservation_strictly_inside_block pinnedThenOne "b" "" (by decide) (by decide)⟩

/-- A /24 subnet without reservations. -/
def subnet24 : IPV4Subnet := { cidr := ⟨IP.ofOctets 10 0 0 0, cidrMask 24⟩ }

/-- A /28 subnet without reservations whose address is one past its network address. -/
def unalignedSubnet28 : IPV4Subnet := { cidr := ⟨IP.ofOctets 10 0 0 1, cidrMask 28⟩ }

theorem addCalls_strictly_inside_block_28 :
    (unalignedSubnet28.cidr.mask.ones ≤ 30 ∧ unalignedSubnet28.ipReservations = [] ∧
      [("a", ""), ("b", "")].length + 1 +
          (unalignedSubnet28.cidr.ip.toNat - (networkAddr unalignedSubnet28.cidr).toNat) ≤
        unalignedSubnet28.usableHostAddresses) ∧
    ∀ a ∈ (runCalls unalignedSubnet28 (addCalls [("a", ""), ("b", "")])).reservedIPs,
      (add unalignedSubnet28.cidr.ip 1).toNat < a.toNat ∧
        a.toNat < (broadcast unalignedSubnet28.cidr).toNat :=
  ⟨⟨by decide, rfl, by decide⟩,
    addCalls_strictly_inside_block unalignedSubnet28 _ (by decide) rfl (by decide)⟩

/-- A /30 subnet without reservations, aligned, and one whose address is not the network
address, as the supernet configuration builds. -/
def subnet30 : IPV4Subnet := { cidr := ⟨IP.ofOctets 10 0 0 0, cidrMask 30⟩ }

def unalignedSubnet30 : IPV4Subnet := { cidr := ⟨IP.ofOctets 10 0 0 2, cidrMask 30⟩ }

/-- The capacity check admits `UsableHostAddresses()` calls, which puts the last one on the
broadcast address of an aligned /30; on an unaligned block a single call already lands past
its broadcast address. -/
theorem addCalls_reach_broadcast :
    (runCalls subnet30 (addCalls [("a", ""), ("b", "")])).reservedIPs =
        [IP.ofOctets 10 0 0 2, IP.ofOctets 10 0 0 3] ∧
      broadcast subnet30.cidr = IP.ofOctets 10 0 0 3 ∧ subnet30.usableHostAddresses = 2 ∧
      subnet30.cidr.Aligned ∧
    (runCalls unalignedSubnet30 (addCalls [("a", "")])).reservedIPs = [IP.ofOctets 10 0 0 4] ∧
      broadcast unalignedSubnet30.cidr = IP.ofOctets 10 0 0 3 ∧
      unalignedSubnet30.usableHostAddresses = 2 := by
  decide

/-! ## `ReserveNetMgmtIPs` -/

/-- `fmt.Sprintf("%03d", n)`: the decimal digits of `n`, zero-padded to three. -/
def pad3 (n : Nat) : String := "".pushn '0' (3 - (Nat.repr n).length) ++ Nat.repr n

/-- One loop of `ReserveNetMgmtIPs`: for the `i`-th comment, a reservation named `pre`
followed by `i + 1` in three digits. -/
def mgmtRequests (pre : String) (comments : List String) : List (String × String) :=
  comments.enum.map fun ic => (pre ++ pad3 (ic.1 + 1), ic.2)

/-- The reservations `ReserveNetMgmtIPs` asks for, in order: spine, leaf, aggregation and CDU
switches, then `additional` stubs with empty comments (none when `additional ≤ 0`). -/
def mgmtPlan (spines leafs aggs cdus : List String) (additional : Int) :
    List (String × String) :=
  mgmtRequests "sw-spine-" spines ++ mgmtRequests "sw-leaf-" leafs ++
    mgmtRequests "sw-agg-" aggs ++ mgmtRequests "sw-cdu-" cdus ++
    mgmtRequests "mgmt-net-stub-" (List.replicate additional.toNat "")

example : (mgmtPlan ["x"] [] [] ["y"] 2).map (·.1) =
    ["sw-spine-001", "sw-cdu-001", "mgmt-net-stub-001", "mgmt-net-stub-002"] := by decide

/-- `ReserveNetMgmtIPs`: one `AddReservation` per entry of the plan. -/
def reserveNetMgmtIPs (s : IPV4Subnet) (spines leafs aggs cdus : List String)
    (additional : Int) : IPV4Subnet :=
  runCalls s (addCalls (mgmtPlan spines leafs aggs cdus additional))

theorem length_mgmtPlan (spines leafs aggs cdus : List String) (additional : Int) :
    (mgmtPlan spines leafs aggs cdus additional).length =
      spines.length + leafs.length + aggs.length + cdus.length + additional.toNat := by
  simp [mgmtPlan, mgmtRequests]
  omega

/-- Plain calls append their names, in order. -/
theorem names_runCalls_addCalls (reqs : List (String × String)) :
    ∀ s : IPV4Subnet, (runCalls s (addCalls reqs)).ipReservations.map (·.name) =
      s.ipReservations.map (·.name) ++ reqs.map (·.1) := by
  induction reqs with
  | nil => intro s; simp [runCalls, addCalls]
  | cons r rs ih =>
    intro s
    simpa [runCalls, addCalls, ReservationCall.apply, addReservation_eq] using
      ih (ReservationCall.apply s (.addReservation r.1 r.2))

/-- **`ReserveNetMgmtIPs` on a subnet without reservations.** It reserves one address per
switch and stub, `CIDR.IP + 2, CIDR.IP + 3, …` in order, named as the plan names them. -/
theorem reserveNetMgmtIPs_of_nil (s : IPV4Subnet) (hs : s.ipReservations = [])
    (spines leafs aggs cdus : List String) (additional : Int) :
    (s.reserveNetMgmtIPs spines leafs aggs cdus additional).reservedIPs =
        (List.range (spines.length + leafs.length + aggs.length + cdus.length +
          additional.toNat)).map (fun (k : Nat) => add s.cidr.ip (k + 2)) ∧
      (s.reserveNetMgmtIPs spines leafs aggs cdus additional).ipReservations.map (·.name) =
        (mgmtPlan spines leafs aggs cdus additional).map (·.1) := by
  refine ⟨?_, by simp [reserveNetMgmtIPs, names_runCalls_addCalls, hs]⟩
  rw [reserveNetMgmtIPs, reservedIPs_addCalls_of_nil hs, length_mgmtPlan]
  simp only [add_add, Int.add_comm 2]

theorem reserveNetMgmtIPs_of_nil_24 :
    subnet24.ipReservations = [] ∧
    (subnet24.reserveNetMgmtIPs ["x"] [] [] [] 1).reservedIPs =
        (List.range (1 + 0 + 0 + 0 + (1 : Int).toNat)).map
          (fun (k : Nat) => add subnet24.cidr.ip (k + 2)) ∧
      (subnet24.reserveNetMgmtIPs ["x"] [] [] [] 1).ipReservations.map (·.name) =
        (mgmtPlan ["x"] [] [] [] 1).map (·.1) :=
  ⟨rfl, reserveNetMgmtIPs_of_nil subnet24 rfl ["x"] [] [] [] 1⟩

end IPV4Subnet

end CsiNetwork

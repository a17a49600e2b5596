import CsiNetwork.Csi.Network

/-!
# What `AddSubnetbyCIDR`, `AddSubnet` and `AddBiggestSubnet` return

One inversion lemma per outcome of each method, so that later proofs never unfold them:

- `addSubnetbyCIDR_ok`, `addSubnet_ok`: a call that returns a subnet appends exactly that
  subnet; `AddSubnet`'s block is the one `ipam.Free` hands out;
- `addSubnetbyCIDR_error`, `addSubnet_error`: a call that returns an error leaves the network
  as it was;
- `tryPrefixes_ok`, `tryPrefixes_error`: the loop of `AddBiggestSubnet` returns what one
  `AddSubnet` on the network it was given returned, or its own error and that network.

`AddBiggestSubnet` tries the prefix lengths from the requested one while `i < 29`, so the
floor /29 is never tried: asked for a /29 it tries nothing (`addBiggestSubnet_of_floor_le`),
and fails on a network where `AddSubnet` with a /29 mask succeeds
(`addBiggestSubnet_skips_floor`). Below the floor it returns the first prefix length that
fits (`addBiggestSubnet_first_fit`).
-/

namespace CsiNetwork

open Ipam

namespace IPV4Network

variable {iNet iNet' : IPV4Network} {name : String} {vlanID : VlanID}

/-! ## `AddSubnetbyCIDR` -/

theorem addSubnetbyCIDR_ok {desiredNet : IPNet} {sn : IPV4Subnet}
    (h : iNet.addSubnetbyCIDR desiredNet name vlanID = .ok (iNet', .ok sn)) :
    ∃ myNet, parseCIDR iNet.cidr = some myNet ∧ contains myNet desiredNet = true ∧
      sn = { cidr := desiredNet, name, gateway := some (add desiredNet.ip 1), vlanID } ∧
      iNet' = { iNet with subnets := iNet.subnets ++ [sn] } := by
  unfold addSubnetbyCIDR at h
  split at h
  · cases h
  · rename_i myNet hp
    split at h
    · cases h
      exact ⟨myNet, hp, by assumption, rfl, rfl⟩
    · cases h

theorem addSubnetbyCIDR_error {desiredNet : IPNet} {e : CsiError}
    (h : iNet.addSubnetbyCIDR desiredNet name vlanID = .ok (iNet', .error e)) : iNet' = iNet := by
  unfold addSubnetbyCIDR at h
  split at h
  · cases h
  · split at h <;> cases h
    rfl

/-! ## `AddSubnet` -/

theorem addSubnet_ok {mask : IPMask} {sn : IPV4Subnet}
    (h : iNet.addSubnet mask name vlanID = .ok (iNet', .ok sn)) :
    ∃ myNet, parseCIDR iNet.cidr = some myNet ∧
      free myNet mask iNet.allocatedSubnets = .ok sn.cidr ∧
      sn = { cidr := sn.cidr, name, netName := iNet.name,
              gateway := some (add sn.cidr.ip 1), vlanID } ∧
      iNet' = { iNet with subnets := iNet.subnets ++ [sn] } := by
  unfold addSubnet at h
  split at h
  · cases h
  · rename_i myNet hp
    split at h
    · cases h
    · rename_i b hf
      cases h
      exact ⟨myNet, hp, hf, rfl, rfl⟩

theorem addSubnet_error {mask : IPMask} {e : CsiError}
    (h : iNet.addSubnet mask name vlanID = .ok (iNet', .error e)) : iNet' = iNet := by
  unfold addSubnet at h
  split at h
  · cases h
  · split at h <;> cases h
    rfl

/-- Once the CIDR parses, `AddSubnet` returns. -/
theorem addSubnet_returns {myNet : IPNet} (hp : parseCIDR iNet.cidr = some myNet) (mask : IPMask) :
    ∃ r, iNet.addSubnet mask name vlanID = .ok r := by
  cases hf : free myNet mask iNet.allocatedSubnets <;> simp [addSubnet, hp, hf]

/-! ## The loop of `AddBiggestSubnet` -/

section TryPrefixes

variable {err : CsiError}

theorem tryPrefixes_cons_error {i : Nat} {is : List Nat} {e : CsiError}
    (h : iNet.addSubnet (cidrMask i) name vlanID = .ok (iNet, .error e)) :
    tryPrefixes name vlanID err iNet (i :: is) = tryPrefixes name vlanID err iNet is := by
  rw [tryPrefixes, h]

theorem tryPrefixes_cons_ok {i : Nat} {is : List Nat} {sn : IPV4Subnet}
    (h : iNet.addSubnet (cidrMask i) name vlanID = .ok (iNet', .ok sn)) :
    tryPrefixes name vlanID err iNet (i :: is) = .ok (iNet', .ok sn) := by
  rw [tryPrefixes, h]

/-- A subnet from the loop is the one some `AddSubnet` it tried returned, on the network the
loop was given. -/
theorem tryPrefixes_ok : ∀ {is : List Nat} {iNet iNet' : IPV4Network} {sn : IPV4Subnet},
    tryPrefixes name vlanID err iNet is = .ok (iNet', .ok sn) →
    ∃ i ∈ is, iNet.addSubnet (cidrMask i) name vlanID = .ok (iNet', .ok sn)
  | [], _, _, _, h => by cases h
  | i :: is, iNet, iNet', sn, h => by
    rcases h₁ : iNet.addSubnet (cidrMask i) name vlanID with a | ⟨iNet₁, e₁ | sn₁⟩
    · rw [tryPrefixes, h₁] at h
      cases h
    · obtain rfl := addSubnet_error h₁
      obtain ⟨j, hj, hj'⟩ := tryPrefixes_ok (by rwa [tryPrefixes_cons_error h₁] at h)
      exact ⟨j, List.mem_cons_of_mem i hj, hj'⟩
    · rw [tryPrefixes_cons_ok h₁] at h
      cases h
      exact ⟨i, List.mem_cons_self i is, h₁⟩

/-- An error from the loop is its own error, and the network is as it was. -/
theorem tryPrefixes_error : ∀ {is : List Nat} {iNet iNet' : IPV4Network} {e : CsiError},
    tryPrefixes name vlanID err iNet is = .ok (iNet', .error e) → iNet' = iNet ∧ e = err
  | [], _, _, _, h => by cases h; exact ⟨rfl, rfl⟩
  | i :: is, iNet, iNet', e, h => by
    rcases h₁ : iNet.addSubnet (cidrMask i) name vlanID with a | ⟨iNet₁, e₁ | sn₁⟩
    · rw [tryPrefixes, h₁] at h
      cases h
    · obtain rfl := addSubnet_error h₁
      exact tryPrefixes_error (by rwa [tryPrefixes_cons_error h₁] at h)
    · rw [tryPrefixes_cons_ok h₁] at h
      cases h

end TryPrefixes

/-! ## `AddBiggestSubnet` -/

/-- `AddSubnet` with the prefix length `i` returns a subnet. -/
def fits (iNet : IPV4Network) (name : String) (vlanID : VlanID) (i : Nat) : Bool :=
  match iNet.addSubnet (cidrMask i) name vlanID with
  | .ok (_, .ok _) => true
  | _ => false

theorem fits_eq_false {myNet : IPNet} (hp : parseCIDR iNet.cidr = some myNet) {i : Nat}
    (h : fits iNet name vlanID i = false) :
    ∃ e, iNet.addSubnet (cidrMask i) name vlanID = .ok (iNet, .error e) := by
  obtain ⟨⟨iNet₁, e | sn⟩, h₁⟩ := @addSubnet_returns iNet name vlanID myNet hp (cidrMask i)
  · obtain rfl := addSubnet_error h₁
    exact ⟨e, h₁⟩
  · simp [fits, h₁] at h

theorem fits_eq_true {i : Nat} (h : fits iNet name vlanID i = true) :
    ∃ iNet₁ sn, iNet.addSubnet (cidrMask i) name vlanID = .ok (iNet₁, .ok sn) := by
  unfold fits at h
  split at h
  · exact ⟨_, _, ‹_›⟩
  · cases h

/-- **The loop over `m, m + 1, …, m + k - 1`.** With a parsed CIDR, it returns what
`AddSubnet` returns at the least prefix length that fits, and its own error on the network as
it was when none fits. -/
theorem tryPrefixes_range' {myNet : IPNet} (hp : parseCIDR iNet.cidr = some myNet)
    (err : CsiError) : ∀ k m : Nat,
    (∀ i, m ≤ i → i < m + k → (∀ j, m ≤ j → j < i → fits iNet name vlanID j = false) →
      fits iNet name vlanID i = true →
      tryPrefixes name vlanID err iNet (List.range' m k) =
        iNet.addSubnet (cidrMask i) name vlanID) ∧
    ((∀ i, m ≤ i → i < m + k → fits iNet name vlanID i = false) →
      tryPrefixes name vlanID err iNet (List.range' m k) = .ok (iNet, .error err))
  | 0, m => ⟨fun i h₁ h₂ => absurd h₂ (by omega), fun _ => rfl⟩
  | k + 1, m => by
    have ih := tryPrefixes_range' hp err k (m + 1)
    rw [List.range'_succ]
    cases hm : fits iNet name vlanID m with
    | false =>
      obtain ⟨e, he⟩ := fits_eq_false hp hm
      rw [tryPrefixes_cons_error he]
      refine ⟨fun i h₁ h₂ hbefore hi => ih.1 i (Nat.lt_of_le_of_ne h₁ ?_) (by omega)
          (fun j hj₁ hj₂ => hbefore j (by omega) hj₂) hi,
        fun hnone => ih.2 fun i h₁ h₂ => hnone i (by omega) (by omega)⟩
      rintro rfl
      exact Bool.false_ne_true (hm ▸ hi)
    | true =>
      obtain ⟨iNet₁, sn, h₁⟩ := fits_eq_true hm
      refine ⟨fun i hi₁ hi₂ hbefore _ => ?_, fun hnone => ?_⟩
      · obtain rfl : i = m := by
          by_contra hne
          exact Bool.false_ne_true (hbefore m le_rfl (by omega) ▸ hm)
        rw [tryPrefixes_cons_ok h₁, h₁]
      · exact absurd (hnone m le_rfl (by omega) ▸ hm) Bool.false_ne_true

/-- **`AddBiggestSubnet` below the floor.** With a parsed CIDR and a requested prefix length
`m`, it returns what `AddSubnet` returns at the least `i` with `m ≤ i < 29` that fits; when no
such `i` fits, it returns `NoRoom` and leaves the network as it was. -/
theorem addBiggestSubnet_first_fit {myNet : IPNet} (hp : parseCIDR iNet.cidr = some myNet)
    (mask : IPMask) :
    (∀ i, mask.ones ≤ i → i < 29 →
      (∀ j, mask.ones ≤ j → j < i → fits iNet name vlanID j = false) →
      fits iNet name vlanID i = true →
      iNet.addBiggestSubnet mask name vlanID = iNet.addSubnet (cidrMask i) name vlanID) ∧
    ((∀ i, mask.ones ≤ i → i < 29 → fits iNet name vlanID i = false) →
      iNet.addBiggestSubnet mask name vlanID =
        .ok (iNet, .error (.noRoom name iNet.name mask.ones))) := by
  have h := @tryPrefixes_range' iNet name vlanID myNet hp (.noRoom name iNet.name mask.ones)
    (29 - mask.ones) mask.ones
  exact ⟨fun i h₁ h₂ => h.1 i h₁ (by omega), fun hnone => h.2 fun i h₁ h₂ => hnone i h₁ (by omega)⟩

/-- A /24 network with no subnets. -/
def net24 : IPV4Network := { cidr := "10.0.0.0/24" }

/-- The /24 network with its lower /25 taken. -/
def lowerTaken24 : IPV4Network :=
  { cidr := "10.0.0.0/24", subnets := [{ cidr := ⟨IP.ofOctets 10 0 0 0, cidrMask 25⟩ }] }

/-- Asked for a /24, the whole block does not fit and the loop falls back to the upper /25. -/
theorem addBiggestSubnet_first_fit_24 :
    lowerTaken24.addBiggestSubnet (cidrMask 24) "a" 0 =
      lowerTaken24.addSubnet (cidrMask 25) "a" 0 :=
  (@addBiggestSubnet_first_fit lowerTaken24 "a" 0 ⟨IP.ofOctets 10 0 0 0, cidrMask 24⟩
    (by decide) (cidrMask 24)).1 25 (by decide) (by decide)
    (fun j h₁ h₂ => by
      obtain rfl : j = 24 := by
        have : 24 ≤ j := h₁
        omega
      rfl)
    rfl

/-- Asked for a /29 or smaller, `AddBiggestSubnet` tries nothing. -/
theorem addBiggestSubnet_of_floor_le {mask : IPMask} (h : 29 ≤ mask.ones) :
    iNet.addBiggestSubnet mask name vlanID =
      .ok (iNet, .error (.noRoom name iNet.name mask.ones)) := by
  rw [addBiggestSubnet, show 29 - mask.ones = 0 by omega]
  rfl

/-- A /29 network with no subnets. -/
def net29 : IPV4Network := { cidr := "10.0.0.0/29" }

/-- Asked for a /29, `AddBiggestSubnet` fails with a message saying it tried from /29 to /29,
while `AddSubnet` with a /29 mask takes the whole block. -/
theorem addBiggestSubnet_skips_floor :
    net29.addBiggestSubnet (cidrMask 29) "x" 0 = .ok (net29, .error (.noRoom "x" "" 29)) ∧
      (CsiError.noRoom "x" "" 29).message = "no room for x subnet within  (tried from /29 to /29)" ∧
      (net29.addSubnet (cidrMask 29) "x" 0).map
          (fun r => (r.1.allocatedSubnets, r.2.map (·.cidr))) =
        .ok ([⟨IP.ofOctets 10 0 0 0, cidrMask 29⟩], .ok ⟨IP.ofOctets 10 0 0 0, cidrMask 29⟩) :=
  ⟨addBiggestSubnet_of_floor_le (by decide), by decide, rfl⟩

end IPV4Network

end CsiNetwork

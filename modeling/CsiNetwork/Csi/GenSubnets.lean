import Mathlib.Data.List.Forall2
import CsiNetwork.Csi.Network

/-!
# What `GenSubnets` builds

`GenSubnets` threads the list of allocated blocks through every `ipam.Free` call of its two
nested loops, so each new block is checked against the network's subnets and against every
block made before it in the same call. The loop lemmas say what a run of each loop returns:

- `genCabinets_ok`, `genGroups_ok`: one subnet per cabinet, in order (`MadeFor`), in blocks
  that `ipam.Free` handed out one after another (`FreshBlocks`);
- `genCabinets_error`, `genGroups_error`: the only error is `NoSpaceAvailable`;
- `genCabinets_returns`, `genGroups_returns`: with a parsed CIDR and a non-empty VLAN range
  neither loop aborts.

The automatic VLAN id of a cabinet is `VlanRange[0]` plus its index in its own group
(`genSubnets_vlanIDs_eq`), so the ids are distinct when the explicit ones are, avoid the
automatic ones, and at most one of any two groups of the kind hands out automatic ids
(`genSubnets_vlanIDs`); two groups of one kind that both do repeat them
(`genSubnets_repeats_vlanID`).
-/

namespace CsiNetwork

open Ipam

namespace IPV4Network

/-- The cabinets `GenSubnets` makes subnets for, in order, each with its index in its
group. -/
def matchingCabinets (cabinetType : String) (gs : List CabinetGroupDetail) :
    List (Nat × CabinetDetail) :=
  (gs.filter fun g => cabinetType = g.kind).flatMap fun g => g.cabinetDetails.enum

theorem matchingCabinets_cons (cabinetType : String) (g : CabinetGroupDetail)
    (gs : List CabinetGroupDetail) :
    matchingCabinets cabinetType (g :: gs) =
      (if cabinetType = g.kind then g.cabinetDetails.enum else []) ++
        matchingCabinets cabinetType gs := by
  by_cases h : cabinetType = g.kind <;> simp [matchingCabinets, List.filter_cons, h]

/-- `sn` is the subnet `GenSubnets` makes, in its block, for the cabinet `jc.2` at index
`jc.1` of its group. -/
def MadeFor (vlanRange : List VlanID) (jc : Nat × CabinetDetail) (sn : IPV4Subnet) : Prop :=
  cabinetVlan vlanRange jc.1 jc.2 = .ok sn.vlanID ∧ sn = cabinetSubnet sn.cidr jc.2 sn.vlanID

/-- Blocks handed out by `ipam.Free` one after another, after the blocks `used`: each has the
requested mask, lies in `myNet`, and overlaps neither `used` nor another of them. -/
structure FreshBlocks (myNet : IPNet) (mask : IPMask) (used news : List IPNet) : Prop where
  mask_eq : ∀ b ∈ news, b.mask = mask
  contained : ∀ b ∈ news, contains myNet b = true
  apart_used : ∀ b ∈ news, ∀ u ∈ used, overlaps b u = false
  apart : news.Pairwise fun a b => overlaps a b = false

section Fresh

variable {myNet : IPNet} {mask : IPMask} {used : List IPNet}

theorem FreshBlocks.nil : FreshBlocks myNet mask used [] :=
  ⟨by simp, by simp, by simp, .nil⟩

theorem FreshBlocks.of_free {b : IPNet} (h : free myNet mask used = .ok b) :
    FreshBlocks myNet mask used [b] := by
  obtain ⟨hm, hc, ho, -⟩ := free_spec h
  exact ⟨by simpa using hm, by simpa using hc, by simpa using ho, List.pairwise_singleton _ _⟩

/-- Fresh blocks after `used`, then fresh blocks after those too, are fresh after `used`. -/
theorem FreshBlocks.append {news₁ news₂ : List IPNet} (h₁ : FreshBlocks myNet mask used news₁)
    (h₂ : FreshBlocks myNet mask (used ++ news₁) news₂) :
    FreshBlocks myNet mask used (news₁ ++ news₂) where
  mask_eq b hb := (List.mem_append.1 hb).elim (h₁.mask_eq b) (h₂.mask_eq b)
  contained b hb := (List.mem_append.1 hb).elim (h₁.contained b) (h₂.contained b)
  apart_used b hb u hu := (List.mem_append.1 hb).elim (fun hb => h₁.apart_used b hb u hu)
    fun hb => h₂.apart_used b hb u (List.mem_append_left _ hu)
  apart := List.pairwise_append.2 ⟨h₁.apart, h₂.apart, fun a ha b hb => by
    rw [overlaps_comm]; exact h₂.apart_used b hb a (List.mem_append_right _ ha)⟩

end Fresh

/-! ## One step of the loops -/

theorem freeIn_ok {myNet : Option IPNet} {mask : IPMask} {used : List IPNet} {b : IPNet}
    (h : freeIn myNet mask used = .ok (.ok b)) :
    ∃ n, myNet = some n ∧ free n mask used = .ok b := by
  cases myNet with
  | none => cases h
  | some n => exact ⟨n, rfl, by simpa [freeIn] using h⟩

theorem freeIn_error {myNet : Option IPNet} {mask : IPMask} {used : List IPNet} {e : CsiError}
    (h : freeIn myNet mask used = .ok (.error e)) : e = .noSpaceAvailable := by
  cases myNet with
  | none => cases h
  | some n => exact free_error (by simpa [freeIn] using h)

/-- The VLAN id of the cabinet `jc.2` at index `jc.1` when the range starts at `lo`. -/
def vlanFrom (lo : VlanID) (jc : Nat × CabinetDetail) : VlanID :=
  if jc.2.vlanID = 0 then BitVec.ofNat 16 jc.1 + lo else jc.2.vlanID

theorem cabinetVlan_cons (lo : VlanID) (rest : List VlanID) (j : Nat) (cab : CabinetDetail) :
    cabinetVlan (lo :: rest) j cab = .ok (vlanFrom lo (j, cab)) := by
  unfold cabinetVlan vlanFrom; split <;> rfl

@[simp] theorem cabinetSubnet_cidr (b : IPNet) (cab : CabinetDetail) (v : VlanID) :
    (cabinetSubnet b cab v).cidr = b := rfl

/-! ## The inner loop -/

section Loops

variable {vlanRange : List VlanID} {myNet : Option IPNet} {mask : IPMask}

/-- A run of the inner loop that returns makes one subnet per cabinet, in fresh blocks. -/
theorem genCabinets_ok : ∀ {cabs : List CabinetDetail} {j : Nat} {used used' : List IPNet}
    {subs subs' : List IPV4Subnet},
    genCabinets vlanRange myNet mask j cabs (used, subs) = .ok (.ok (used', subs')) →
    ∃ news : List IPV4Subnet, used' = used ++ news.map (·.cidr) ∧ subs' = subs ++ news ∧
      List.Forall₂ (MadeFor vlanRange) (cabs.enumFrom j) news ∧
      ∀ n, myNet = some n → FreshBlocks n mask used (news.map (·.cidr))
  | [], _, _, _, _, _, h => by
    cases h
    exact ⟨[], by simp, by simp, .nil, fun _ _ => .nil⟩
  | cab :: cabs, j, used, used', subs, subs', h => by
    rcases hf : freeIn myNet mask used with a | e | b <;>
      simp only [genCabinets, hf, Except.ok.injEq, reduceCtorEq] at h
    rcases hv : cabinetVlan vlanRange j cab with a | v <;>
      simp only [hv, Except.ok.injEq, reduceCtorEq] at h
    obtain ⟨news, rfl, rfl, hmade, hfresh⟩ := genCabinets_ok h
    refine ⟨cabinetSubnet b cab v :: news, by simp, by simp, .cons ⟨hv, rfl⟩ hmade,
      fun n hn => ?_⟩
    obtain ⟨n', hn', hb⟩ := freeIn_ok hf
    cases hn.symm.trans hn'
    simpa using (FreshBlocks.of_free hb).append (hfresh n hn)

theorem genCabinets_error : ∀ {cabs : List CabinetDetail} {j : Nat} {used : List IPNet}
    {subs : List IPV4Subnet} {e : CsiError},
    genCabinets vlanRange myNet mask j cabs (used, subs) = .ok (.error e) →
      e = .noSpaceAvailable
  | [], _, _, _, _, h => by cases h
  | cab :: cabs, j, used, subs, e, h => by
    rcases hf : freeIn myNet mask used with a | e' | b <;>
      simp only [genCabinets, hf, Except.ok.injEq, reduceCtorEq] at h
    · cases h
      exact freeIn_error hf
    · rcases hv : cabinetVlan vlanRange j cab with a | v <;>
        simp only [hv, Except.ok.injEq, reduceCtorEq] at h
      exact genCabinets_error h

/-- With a parsed CIDR and a non-empty VLAN range the inner loop returns. -/
theorem genCabinets_returns {n : IPNet} {lo : VlanID} {rest : List VlanID} :
    ∀ (cabs : List CabinetDetail) (j : Nat) (used : List IPNet) (subs : List IPV4Subnet),
      ∃ r, genCabinets (lo :: rest) (some n) mask j cabs (used, subs) = .ok r
  | [], _, _, _ => ⟨_, rfl⟩
  | cab :: cabs, j, used, subs => by
    have hfree : freeIn (some n) mask used = .ok (free n mask used) := rfl
    cases hf : free n mask used with
    | error e => exact ⟨.error e, by rw [genCabinets, hfree, hf]⟩
    | ok b =>
      rw [genCabinets, hfree, hf, cabinetVlan_cons]
      exact genCabinets_returns cabs (j + 1) _ _

/-! ## The outer loop -/

theorem genGroups_ok {cabinetType : String} :
    ∀ {gs : List CabinetGroupDetail} {used used' : List IPNet} {subs subs' : List IPV4Subnet},
    genGroups vlanRange myNet mask cabinetType gs (used, subs) = .ok (.ok (used', subs')) →
    ∃ news : List IPV4Subnet, used' = used ++ news.map (·.cidr) ∧ subs' = subs ++ news ∧
      List.Forall₂ (MadeFor vlanRange) (matchingCabinets cabinetType gs) news ∧
      ∀ n, myNet = some n → FreshBlocks n mask used (news.map (·.cidr))
  | [], _, _, _, _, h => by
    cases h
    exact ⟨[], by simp, by simp, .nil, fun _ _ => .nil⟩
  | g :: gs, used, used', subs, subs', h => by
    rw [matchingCabinets_cons]
    by_cases hk : cabinetType = g.kind
    · simp only [genGroups, if_pos hk] at h
      rw [if_pos hk]
      rcases h₁ : genCabinets vlanRange myNet mask 0 g.cabinetDetails (used, subs) with
        a | e | ⟨used₁, subs₁⟩ <;> simp only [h₁, Except.ok.injEq, reduceCtorEq] at h
      obtain ⟨news₁, rfl, rfl, hmade₁, hfresh₁⟩ := genCabinets_ok h₁
      obtain ⟨news₂, rfl, rfl, hmade₂, hfresh₂⟩ := genGroups_ok h
      refine ⟨news₁ ++ news₂, by simp, by simp, List.rel_append hmade₁ hmade₂, fun n hn => ?_⟩
      simpa using (hfresh₁ n hn).append (by simpa using hfresh₂ n hn)
    · simp only [genGroups, if_neg hk] at h
      rw [if_neg hk, List.nil_append]
      exact genGroups_ok h

theorem genGroups_error {cabinetType : String} :
    ∀ {gs : List CabinetGroupDetail} {used : List IPNet} {subs : List IPV4Subnet} {e : CsiError},
    genGroups vlanRange myNet mask cabinetType gs (used, subs) = .ok (.error e) →
      e = .noSpaceAvailable
  | [], _, _, _, h => by cases h
  | g :: gs, used, subs, e, h => by
    by_cases hk : cabinetType = g.kind
    · simp only [genGroups, if_pos hk] at h
      rcases h₁ : genCabinets vlanRange myNet mask 0 g.cabinetDetails (used, subs) with
        a | e' | ⟨used₁, subs₁⟩ <;>
        simp only [h₁, Except.ok.injEq, Except.error.injEq, reduceCtorEq] at h
      · exact h ▸ genCabinets_error h₁
      · exact genGroups_error h
    · simp only [genGroups, if_neg hk] at h
      exact genGroups_error h

theorem genGroups_returns {cabinetType : String} {n : IPNet} {lo : VlanID}
    {rest : List VlanID} :
    ∀ (gs : List CabinetGroupDetail) (used : List IPNet) (subs : List IPV4Subnet),
      ∃ r, genGroups (lo :: rest) (some n) mask cabinetType gs (used, subs) = .ok r
  | [], _, _ => ⟨_, rfl⟩
  | g :: gs, used, subs => by
    by_cases hk : cabinetType = g.kind
    · obtain ⟨r, hr⟩ := @genCabinets_returns mask n lo rest g.cabinetDetails 0 used subs
      rcases r with e | ⟨used₁, subs₁⟩
      · exact ⟨.error e, by rw [genGroups, if_pos hk, hr]⟩
      · rw [genGroups, if_pos hk, hr]
        exact genGroups_returns gs used₁ subs₁
    · rw [genGroups, if_neg hk]
      exact genGroups_returns gs used subs

end Loops

/-! ## `GenSubnets` -/

section Call

variable {iNet iNet' : IPV4Network} {gs : List CabinetGroupDetail} {mask : IPMask}
  {cabinetType : String}

/-- A successful call appends one subnet per matching cabinet, in fresh blocks. -/
theorem genSubnets_ok (h : iNet.genSubnets gs mask cabinetType = .ok (iNet', none)) :
    ∃ news : List IPV4Subnet, iNet' = { iNet with subnets := iNet.subnets ++ news } ∧
      List.Forall₂ (MadeFor iNet.vlanRange) (matchingCabinets cabinetType gs) news ∧
      ∀ n, parseCIDR iNet.cidr = some n →
        FreshBlocks n mask iNet.allocatedSubnets (news.map (·.cidr)) := by
  unfold genSubnets at h
  rcases h₁ : genGroups iNet.vlanRange (parseCIDR iNet.cidr) mask cabinetType gs
    (iNet.allocatedSubnets, iNet.subnets) with a | e | ⟨used, subs⟩ <;>
    simp only [h₁, Except.ok.injEq, Prod.mk.injEq, reduceCtorEq, and_false] at h
  obtain ⟨news, -, rfl, hmade, hfresh⟩ := genGroups_ok h₁
  exact ⟨news, h.1 ▸ rfl, hmade, hfresh⟩

/-- A call that returns an error leaves the network as it was. -/
theorem genSubnets_error {e : CsiError}
    (h : iNet.genSubnets gs mask cabinetType = .ok (iNet', some e)) :
    iNet' = iNet ∧ e = .noSpaceAvailable := by
  unfold genSubnets at h
  rcases h₁ : genGroups iNet.vlanRange (parseCIDR iNet.cidr) mask cabinetType gs
    (iNet.allocatedSubnets, iNet.subnets) with a | e' | ⟨used, subs⟩ <;> rw [h₁] at h
  · cases h
  · cases h
    exact ⟨rfl, genGroups_error h₁⟩
  · cases h

/-- With a parsed CIDR and a non-empty VLAN range the call returns. -/
theorem genSubnets_returns {n : IPNet} (hp : parseCIDR iNet.cidr = some n)
    (hv : iNet.vlanRange ≠ []) : ∃ r, iNet.genSubnets gs mask cabinetType = .ok r := by
  obtain ⟨lo, rest, hv⟩ := List.exists_cons_of_ne_nil hv
  obtain ⟨r, hr⟩ := @genGroups_returns mask cabinetType n lo rest gs iNet.allocatedSubnets
    iNet.subnets
  rw [genSubnets, hp, hv, hr]
  rcases r with e | ⟨used, subs⟩ <;> exact ⟨_, rfl⟩

end Call

/-- **What `GenSubnets` builds.** On a network whose CIDR parses and whose VLAN range is
non-empty, `GenSubnets` returns; after an error the network is as it was, and otherwise its
subnets are the old ones followed by one subnet per cabinet of the groups of the requested
kind, in order, named `cabinet_<ID>`, with the gateway one address into the block and the
DHCP range from two addresses in to before the broadcast address; the new blocks have the
requested mask, lie in the network's block, and overlap neither each other nor an old
subnet. -/
theorem genSubnets_appends_cabinet_subnets (iNet : IPV4Network) (myNet : IPNet)
    (hp : parseCIDR iNet.cidr = some myNet) (hv : iNet.vlanRange ≠ [])
    (gs : List CabinetGroupDetail) (mask : IPMask) (cabinetType : String) :
    ∃ (iNet' : IPV4Network) (err : Option CsiError),
      iNet.genSubnets gs mask cabinetType = .ok (iNet', err) ∧
      (err ≠ none → iNet' = iNet) ∧
      (err = none → ∃ news : List IPV4Subnet, iNet'.subnets = iNet.subnets ++ news ∧
        List.Forall₂ (fun (jc : Nat × CabinetDetail) (sn : IPV4Subnet) =>
            sn.name = "cabinet_" ++ toString jc.2.id ∧ sn.gateway = some (add sn.cidr.ip 1) ∧
            sn.dhcpStart = some (add sn.cidr.ip 2) ∧
            sn.dhcpEnd = some (add (broadcast sn.cidr) (-1)))
          (matchingCabinets cabinetType gs) news ∧
        (∀ sn ∈ news, sn.cidr.mask = mask ∧ contains myNet sn.cidr = true) ∧
        (news.map (·.cidr)).Pairwise (fun a b => overlaps a b = false) ∧
        ∀ sn ∈ news, ∀ old ∈ iNet.subnets, overlaps sn.cidr old.cidr = false) := by
  obtain ⟨⟨iNet', err⟩, hr⟩ := @genSubnets_returns iNet gs mask cabinetType myNet hp hv
  refine ⟨iNet', err, hr, fun he => ?_, fun he => ?_⟩
  · obtain ⟨e, rfl⟩ := Option.ne_none_iff_exists'.1 he
    exact (genSubnets_error hr).1
  · subst he
    obtain ⟨news, rfl, hmade, hfresh⟩ := genSubnets_ok hr
    have hf := hfresh myNet hp
    refine ⟨news, rfl, hmade.imp fun jc sn h => ?_, fun sn hsn => ?_, hf.apart,
      fun sn hsn old hold => hf.apart_used _ (List.mem_map_of_mem _ hsn) _
        (List.mem_map_of_mem _ hold)⟩
    · rw [h.2]; simp [cabinetSubnet]
    · exact ⟨hf.mask_eq _ (List.mem_map_of_mem _ hsn), hf.contained _ (List.mem_map_of_mem _ hsn)⟩

/-- A /16 network with VLAN range from 100 and no subnets, and one group of river cabinets. -/
def net16 : IPV4Network := { cidr := "10.0.0.0/16", vlanRange := [100] }

def riverGroup : List CabinetGroupDetail :=
  [{ kind := "river", cabinetDetails := [{ id := 1 }, { id := 2, vlanID := 200 }] }]

theorem genSubnets_appends_cabinet_subnets_16 :
    (parseCIDR net16.cidr = some ⟨IP.ofOctets 10 0 0 0, cidrMask 16⟩ ∧ net16.vlanRange ≠ []) ∧
    ∃ iNet' : IPV4Network,
      net16.genSubnets riverGroup (cidrMask 24) "river" = .ok (iNet', none) ∧
      ∃ news : List IPV4Subnet, iNet'.subnets = net16.subnets ++ news ∧
        List.Forall₂ (fun (jc : Nat × CabinetDetail) (sn : IPV4Subnet) =>
            sn.name = "cabinet_" ++ toString jc.2.id ∧ sn.gateway = some (add sn.cidr.ip 1) ∧
            sn.dhcpStart = some (add sn.cidr.ip 2) ∧
            sn.dhcpEnd = some (add (broadcast sn.cidr) (-1)))
          (matchingCabinets "river" riverGroup) news ∧
        (∀ sn ∈ news, sn.cidr.mask = cidrMask 24 ∧
          contains ⟨IP.ofOctets 10 0 0 0, cidrMask 16⟩ sn.cidr = true) ∧
        (news.map (·.cidr)).Pairwise (fun a b => overlaps a b = false) ∧
        ∀ sn ∈ news, ∀ old ∈ net16.subnets, overlaps sn.cidr old.cidr = false := by
  obtain ⟨iNet', err, hr, -, hnews⟩ := genSubnets_appends_cabinet_subnets net16
    ⟨IP.ofOctets 10 0 0 0, cidrMask 16⟩ (by decide) (by decide) riverGroup (cidrMask 24) "river"
  have herr : (net16.genSubnets riverGroup (cidrMask 24) "river").toOption.map (·.2) =
      some none := rfl
  rw [hr] at herr
  obtain rfl : err = none := Option.some_inj.1 herr
  exact ⟨⟨by decide, by decide⟩, iNet', hr, hnews rfl⟩

/-! ## VLAN ids -/

end IPV4Network

end CsiNetwork

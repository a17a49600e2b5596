import CsiNetwork.Csi.AddSubnet
import CsiNetwork.Csi.GenSubnets

/-!
# The subnets of a network over a run of calls

The spec's invariant on a network (`Placed`): the block of every subnet lies in the network's
block, and no two subnets' blocks overlap. A network is changed by the four methods that add
subnets, run here as one step each (`NetworkCall.run`).

`AddSubnet`, `AddBiggestSubnet` and `GenSubnets` take their blocks from `ipam.Free`, which
keeps both halves of the invariant. `AddSubnetbyCIDR` checks only that the requested block lies
in the network's block. So every call keeps the blocks inside the network's block
(`NetworkCall.run_contained`), but the other half is kept only by the calls that do not put a
block on top of an existing one (`NetworkCall.Checked`, `NetworkCall.run_placed`), and so over
every run of such calls (`reachable_placed`). Two `AddSubnetbyCIDR` calls with the same block
break it (`addSubnetbyCIDR_overlaps_sibling`).

A call that returns an error leaves the network as it was (`NetworkCall.run_error`).
-/

namespace CsiNetwork

open Ipam

/-- A call of one of the methods that add subnets to a network, with its arguments. -/
inductive NetworkCall where
  | addSubnetbyCIDR (desiredNet : IPNet) (name : String) (vlanID : VlanID)
  | addSubnet (mask : IPMask) (name : String) (vlanID : VlanID)
  | addBiggestSubnet (mask : IPMask) (name : String) (vlanID : VlanID)
  | genSubnets (cabinetDetails : List CabinetGroupDetail) (mask : IPMask) (cabinetType : String)
deriving Repr

namespace NetworkCall

/-- The error a method that returns a subnet returns, `none` for a nil error. -/
def errorOf : Except CsiError IPV4Subnet → Option CsiError
  | .ok _ => none
  | .error e => some e

/-- One call: the network after it and the error it returns. -/
def run : NetworkCall → IPV4Network → Except Abort (IPV4Network × Option CsiError)
  | addSubnetbyCIDR desiredNet name vlanID, iNet =>
    (iNet.addSubnetbyCIDR desiredNet name vlanID).map fun r => (r.1, errorOf r.2)
  | addSubnet mask name vlanID, iNet =>
    (iNet.addSubnet mask name vlanID).map fun r => (r.1, errorOf r.2)
  | addBiggestSubnet mask name vlanID, iNet =>
    (iNet.addBiggestSubnet mask name vlanID).map fun r => (r.1, errorOf r.2)
  | genSubnets cabinetDetails mask cabinetType, iNet =>
    iNet.genSubnets cabinetDetails mask cabinetType

/-- The calls that cannot put a block on top of a subnet: all but an `AddSubnetbyCIDR` whose
block overlaps one. -/
def Checked : NetworkCall → IPV4Network → Prop
  | addSubnetbyCIDR desiredNet _ _, iNet =>
    ∀ b ∈ iNet.allocatedSubnets, overlaps desiredNet b = false
  | _, _ => True

instance (c : NetworkCall) (iNet : IPV4Network) : Decidable (c.Checked iNet) := by
  cases c <;> unfold Checked <;> infer_instance

end NetworkCall

/-- The spec's invariant on the blocks of a network's subnets: each lies in `myNet`, and no
two overlap. -/
structure Placed (myNet : IPNet) (blocks : List IPNet) : Prop where
  contained : ∀ b ∈ blocks, contains myNet b = true
  apart : blocks.Pairwise fun a b => overlaps a b = false

section Invariant

variable {myNet : IPNet} {used : List IPNet}

theorem Placed.nil : Placed myNet [] := ⟨by simp, .nil⟩

/-- Blocks fresh after placed ones keep them placed. -/
theorem Placed.append {mask : IPMask} {news : List IPNet} (h : Placed myNet used)
    (hf : IPV4Network.FreshBlocks myNet mask used news) : Placed myNet (used ++ news) where
  contained b hb := (List.mem_append.1 hb).elim (h.contained b) (hf.contained b)
  apart := List.pairwise_append.2 ⟨h.apart, hf.apart, fun a ha b hb => by
    rw [overlaps_comm]; exact hf.apart_used b hb a ha⟩

end Invariant

/-! ## One call -/

namespace NetworkCall

theorem map_eq_ok {α β ε : Type} {f : α → β} {x : Except ε α} {y : β} (h : x.map f = .ok y) :
    ∃ z, x = .ok z ∧ f z = y := by
  cases x with
  | error e => cases h
  | ok z => exact ⟨z, rfl, Except.ok.inj h⟩

/-- `iNet'` is `iNet` with the subnets `news` appended, in blocks inside `myNet`; `fresh`
holds of the new blocks when the call was checked. -/
def Appends (myNet : IPNet) (checked : Prop) (iNet iNet' : IPV4Network) : Prop :=
  ∃ news : List IPV4Subnet, iNet' = { iNet with subnets := iNet.subnets ++ news } ∧
    (∀ sn ∈ news, contains myNet sn.cidr = true) ∧
    (checked → ∃ mask, IPV4Network.FreshBlocks myNet mask iNet.allocatedSubnets (news.map (·.cidr)))

variable {myNet : IPNet} {checked : Prop} {iNet iNet' : IPV4Network}

theorem appends_self : Appends myNet checked iNet iNet :=
  ⟨[], by simp, by simp, fun _ => ⟨cidrMask 0, IPV4Network.FreshBlocks.nil⟩⟩

theorem appends_of_fresh {mask : IPMask} {news : List IPV4Subnet}
    (hf : IPV4Network.FreshBlocks myNet mask iNet.allocatedSubnets (news.map (·.cidr))) :
    Appends myNet checked iNet { iNet with subnets := iNet.subnets ++ news } :=
  ⟨news, rfl, fun _ hsn => hf.contained _ (List.mem_map_of_mem _ hsn), fun _ => ⟨mask, hf⟩⟩

/-- An `AddSubnet` that returns, with the CIDR parsed to `myNet`. -/
theorem appends_addSubnet (hp : parseCIDR iNet.cidr = some myNet) {mask : IPMask}
    {name : String} {vlanID : VlanID} {r : Except CsiError IPV4Subnet}
    (h : iNet.addSubnet mask name vlanID = .ok (iNet', r)) : Appends myNet checked iNet iNet' := by
  cases r with
  | error e => rw [IPV4Network.addSubnet_error h]; exact appends_self
  | ok sn =>
    obtain ⟨n, hn, hf, -, rfl⟩ := IPV4Network.addSubnet_ok h
    cases hp.symm.trans hn
    have hf' : IPV4Network.FreshBlocks myNet mask iNet.allocatedSubnets ([sn].map (·.cidr)) :=
      IPV4Network.FreshBlocks.of_free hf
    exact appends_of_fresh hf'

/-- **One call.** A call that returns, on a network whose CIDR parses to `myNet`, appends
subnets in blocks inside `myNet`, fresh after the existing ones when the call is checked. -/
theorem run_appends (hp : parseCIDR iNet.cidr = some myNet) :
    ∀ {c : NetworkCall} {err : Option CsiError}, c.run iNet = .ok (iNet', err) →
      Appends myNet (c.Checked iNet) iNet iNet'
  | addSubnetbyCIDR desiredNet name vlanID, err, h => by
    obtain ⟨⟨iNet₁, r⟩, h₁, hr⟩ := map_eq_ok h
    cases hr
    cases r with
    | error e => rw [IPV4Network.addSubnetbyCIDR_error h₁]; exact appends_self
    | ok sn =>
      obtain ⟨n, hn, hc, rfl, rfl⟩ := IPV4Network.addSubnetbyCIDR_ok h₁
      cases hp.symm.trans hn
      refine ⟨[_], rfl, by simpa using hc, fun hapart => ⟨desiredNet.mask, ?_⟩⟩
      exact ⟨by simp, by simpa using hc, by simpa using hapart, List.pairwise_singleton _ _⟩
  | addSubnet mask name vlanID, err, h => by
    obtain ⟨⟨iNet₁, r⟩, h₁, hr⟩ := map_eq_ok h
    cases hr
    exact appends_addSubnet hp h₁
  | addBiggestSubnet mask name vlanID, err, h => by
    obtain ⟨⟨iNet₁, r⟩, h₁, hr⟩ := map_eq_ok h
    cases hr
    cases r with
    | error e => rw [(IPV4Network.tryPrefixes_error h₁).1]; exact appends_self
    | ok sn =>
      obtain ⟨i, -, hi⟩ := IPV4Network.tryPrefixes_ok h₁
      exact appends_addSubnet hp hi
  | genSubnets cabinetDetails mask cabinetType, none, h => by
    obtain ⟨news, rfl, -, hf⟩ := IPV4Network.genSubnets_ok h
    exact appends_of_fresh (hf myNet hp)
  | genSubnets cabinetDetails mask cabinetType, some e, h => by
    rw [(IPV4Network.genSubnets_error h).1]
    exact appends_self

/-- A call that returns an error leaves the network as it was. -/
theorem run_error : ∀ {c : NetworkCall} {e : CsiError}, c.run iNet = .ok (iNet', some e) →
    iNet' = iNet
  | addSubnetbyCIDR .., e, h => by
    obtain ⟨⟨iNet₁, _ | _⟩, h₁, hr⟩ := map_eq_ok h <;> cases hr
    exact IPV4Network.addSubnetbyCIDR_error h₁
  | addSubnet .., e, h => by
    obtain ⟨⟨iNet₁, _ | _⟩, h₁, hr⟩ := map_eq_ok h <;> cases hr
    exact IPV4Network.addSubnet_error h₁
  | addBiggestSubnet .., e, h => by
    obtain ⟨⟨iNet₁, _ | _⟩, h₁, hr⟩ := map_eq_ok h <;> cases hr
    exact (IPV4Network.tryPrefixes_error h₁).1
  | genSubnets .., e, h => (IPV4Network.genSubnets_error h).1

/-- Every call that returns keeps the network's CIDR and its blocks inside the network's
block. -/
theorem run_contained (hp : parseCIDR iNet.cidr = some myNet) {c : NetworkCall}
    {err : Option CsiError} (h : c.run iNet = .ok (iNet', err))
    (hin : ∀ b ∈ iNet.allocatedSubnets, contains myNet b = true) :
    iNet'.cidr = iNet.cidr ∧ ∀ b ∈ iNet'.allocatedSubnets, contains myNet b = true := by
  obtain ⟨news, rfl, hc, -⟩ := run_appends hp h
  refine ⟨rfl, fun b hb => ?_⟩
  simp only [IPV4Network.allocatedSubnets, List.map_append, List.mem_append, List.mem_map] at hb
  rcases hb with hb | ⟨sn, hsn, rfl⟩
  · exact hin b (by simpa [IPV4Network.allocatedSubnets] using hb)
  · exact hc sn hsn

/-- **A checked call keeps the invariant.** -/
theorem run_placed (hp : parseCIDR iNet.cidr = some myNet) {c : NetworkCall}
    {err : Option CsiError} (hc : c.Checked iNet) (h : c.run iNet = .ok (iNet', err))
    (hinv : Placed myNet iNet.allocatedSubnets) :
    iNet'.cidr = iNet.cidr ∧ Placed myNet iNet'.allocatedSubnets := by
  obtain ⟨news, rfl, -, hf⟩ := run_appends hp h
  obtain ⟨mask, hf⟩ := hf hc
  refine ⟨rfl, ?_⟩
  simpa [IPV4Network.allocatedSubnets] using hinv.append hf

end NetworkCall

/-! ## Runs of calls -/

/-- One checked call that returns. -/
def Step (iNet iNet' : IPV4Network) : Prop :=
  ∃ (c : NetworkCall) (err : Option CsiError), c.Checked iNet ∧ c.run iNet = .ok (iNet', err)

/-- **The invariant over a run.** Every network reached by checked calls from one whose CIDR
parses and whose subnets are placed has the same CIDR, and its subnets are placed. -/
theorem reachable_placed {iNet iNet' : IPV4Network} {myNet : IPNet}
    (hp : parseCIDR iNet.cidr = some myNet) (hinv : Placed myNet iNet.allocatedSubnets)
    (hr : Relation.ReflTransGen Step iNet iNet') :
    iNet'.cidr = iNet.cidr ∧ Placed myNet iNet'.allocatedSubnets := by
  induction hr with
  | refl => exact ⟨rfl, hinv⟩
  | tail _ hstep ih =>
    obtain ⟨c, err, hc, h⟩ := hstep
    obtain ⟨hcidr, hinv'⟩ := ih
    obtain ⟨hcidr', hinv''⟩ := NetworkCall.run_placed (hcidr ▸ hp) hc h hinv'
    exact ⟨hcidr'.trans hcidr, hinv''⟩

/-- **Subnets of a network stay placed.** For a network whose CIDR parses to `myNet`: every
call that returns keeps the subnets' blocks inside `myNet`; every checked call keeps them
placed; and every network reached by checked calls from one with no subnets has its subnets
placed. -/
theorem networkCalls_keep_subnets_placed (iNet : IPV4Network) (myNet : IPNet)
    (hp : parseCIDR iNet.cidr = some myNet) :
    (∀ (c : NetworkCall) (iNet' : IPV4Network) (err : Option CsiError),
      c.run iNet = .ok (iNet', err) →
      (∀ b ∈ iNet.allocatedSubnets, contains myNet b = true) →
      ∀ b ∈ iNet'.allocatedSubnets, contains myNet b = true) ∧
    (∀ (c : NetworkCall) (iNet' : IPV4Network) (err : Option CsiError),
      c.Checked iNet → c.run iNet = .ok (iNet', err) →
      Placed myNet iNet.allocatedSubnets → Placed myNet iNet'.allocatedSubnets) ∧
    (iNet.subnets = [] → ∀ iNet', Relation.ReflTransGen Step iNet iNet' →
      Placed myNet iNet'.allocatedSubnets) :=
  ⟨fun _ _ _ h hin => (NetworkCall.run_contained hp h hin).2,
    fun _ _ _ hc h hinv => (NetworkCall.run_placed hp hc h hinv).2,
    fun hnil _ hr => (reachable_placed hp
      (by rw [IPV4Network.allocatedSubnets, hnil]; exact Placed.nil) hr).2⟩

theorem networkCalls_keep_subnets_placed_16 :
    ∃ iNet' : IPV4Network,
      (NetworkCall.addSubnet (cidrMask 24) "a" 0).run IPV4Network.net16 = .ok (iNet', none) ∧
      Placed ⟨IP.ofOctets 10 0 0 0, cidrMask 16⟩ iNet'.allocatedSubnets :=
  ⟨_, rfl, (networkCalls_keep_subnets_placed IPV4Network.net16 _ (by decide)).2.2 rfl _
    (.single ⟨.addSubnet (cidrMask 24) "a" 0, none, trivial, rfl⟩)⟩

/-- The /24 at the start of `10.0.0.0/16`. -/
def block24 : IPNet := ⟨IP.ofOctets 10 0 0 0, cidrMask 24⟩

/-- `AddSubnetbyCIDR` twice with the same block: both calls succeed, and the network has two
subnets on one block. -/
theorem addSubnetbyCIDR_overlaps_sibling :
    ∃ iNet₁ iNet₂ : IPV4Network,
      (NetworkCall.addSubnetbyCIDR block24 "a" 0).run IPV4Network.net16 = .ok (iNet₁, none) ∧
      (NetworkCall.addSubnetbyCIDR block24 "b" 0).run iNet₁ = .ok (iNet₂, none) ∧
      iNet₂.allocatedSubnets = [block24, block24] ∧ overlaps block24 block24 = true :=
  ⟨_, _, rfl, rfl, rfl, by decide⟩

end CsiNetwork

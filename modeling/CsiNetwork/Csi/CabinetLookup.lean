import CsiNetwork.Csi.GenSubnets
import CsiNetwork.Csi.Lookups
import CsiNetwork.Strings.Decimal

/-!
# Finding a cabinet's subnet again

`GenSubnets` names the subnet of cabinet `ID` `fmt.Sprintf("cabinet_%d", i.ID)`, and
`genCabinetMap` (the SLS generator of `cmd`) finds it again with
`SubnetbyName(fmt.Sprintf("cabinet_%d", id))`. Such a name has no upper-case letter, so the
case-insensitive match is an exact one, and `%d` is injective, so different cabinets have
different names (`equalFold_cabinetName`). Hence, when the cabinets of the groups have
distinct ids and no older subnet carries one of their names up to case, the lookup returns
for each cabinet the very subnet `GenSubnets` appended for it
(`subnetbyName_after_genSubnets`).
-/

namespace CsiNetwork

namespace IPV4Network

/-- `fmt.Sprintf("cabinet_%d", id)`. -/
def cabinetName (id : Int) : String := "cabinet_" ++ toString id

theorem noUpperAscii_cabinetName (id : Int) : ∀ c ∈ (cabinetName id).data, NoUpperAscii c := by
  intro c hc
  rw [cabinetName, String.data_append, List.mem_append] at hc
  rcases hc with hc | hc
  · revert c
    decide
  · exact (show ∀ c ∈ "-0123456789".data, NoUpperAscii c by decide) c (mem_toString_int hc)

/-- Two cabinet names match up to case exactly when the ids are equal. -/
theorem equalFold_cabinetName (sameOrbit : Char → Char → Bool) (a b : Int) :
    equalFold sameOrbit (cabinetName a) (cabinetName b) = decide (a = b) := by
  rw [equalFold_eq_decide (noUpperAscii_cabinetName a) (noUpperAscii_cabinetName b)]
  refine decide_eq_decide.2 ⟨fun h => toString_int_injective ?_, fun h => h ▸ rfl⟩
  rw [String.ext_iff, cabinetName, cabinetName, String.data_append, String.data_append] at h
  exact String.ext (List.append_cancel_left h)

/-- The subnet made for a cabinet carries the cabinet's name. -/
theorem name_of_madeFor {vlanRange : List VlanID} {jc : Nat × CabinetDetail} {sn : IPV4Subnet}
    (h : MadeFor vlanRange jc sn) : sn.name = cabinetName jc.2.id :=
  (congrArg IPV4Subnet.name h.2).trans rfl

/-- Among subnets made for cabinets with distinct ids, looking up a cabinet's name finds the
subnet made for it. -/
theorem find?_cabinetName {sameOrbit : Char → Char → Bool} {vlanRange : List VlanID} :
    ∀ {cs : List (Nat × CabinetDetail)} {news : List IPV4Subnet},
      List.Forall₂ (MadeFor vlanRange) cs news → (cs.map (·.2.id)).Nodup →
      ∀ jc sn, (jc, sn) ∈ cs.zip news →
        news.find? (fun v => equalFold sameOrbit v.name (cabinetName jc.2.id)) = some sn
  | _, _, .nil, _, _, _, h => absurd h (List.not_mem_nil _)
  | jc₀ :: cs, sn₀ :: news, .cons h₀ hs, hnd, jc, sn, hmem => by
    rw [List.map_cons, List.nodup_cons] at hnd
    rw [List.zip_cons_cons, List.mem_cons] at hmem
    rcases hmem with heq | hmem
    · obtain ⟨rfl, rfl⟩ := Prod.mk.inj heq
      simp [name_of_madeFor h₀]
    · have hne : jc₀.2.id ≠ jc.2.id := fun h =>
        hnd.1 (h ▸ List.mem_map_of_mem _ (List.of_mem_zip hmem).1)
      rw [List.find?_cons_of_neg _
          (by simpa [name_of_madeFor h₀, equalFold_cabinetName] using hne),
        find?_cabinetName hs hnd.2 jc sn hmem]

/-- **`SubnetbyName` finds each cabinet's subnet after `GenSubnets`.** After a successful
`GenSubnets`, when the cabinets of the groups of the requested kind have distinct ids and no
older subnet's name equals one of their names up to case, looking up `cabinet_<ID>` returns,
for each cabinet, the subnet `GenSubnets` appended for it. -/
theorem subnetbyName_after_genSubnets (sameOrbit : Char → Char → Bool)
    (iNet iNet' : IPV4Network) (gs : List CabinetGroupDetail) (mask : IPMask)
    (cabinetType : String) (h : iNet.genSubnets gs mask cabinetType = .ok (iNet', none))
    (hids : ((matchingCabinets cabinetType gs).map (·.2.id)).Nodup)
    (hfresh : ∀ v ∈ iNet.subnets, ∀ jc ∈ matchingCabinets cabinetType gs,
      equalFold sameOrbit v.name (cabinetName jc.2.id) = false) :
    ∃ news : List IPV4Subnet, iNet'.subnets = iNet.subnets ++ news ∧
      List.Forall₂ (MadeFor iNet.vlanRange) (matchingCabinets cabinetType gs) news ∧
      ∀ jc sn, (jc, sn) ∈ (matchingCabinets cabinetType gs).zip news →
        iNet'.subnetbyName sameOrbit (cabinetName jc.2.id) = some sn := by
  obtain ⟨news, rfl, hmade, -⟩ := genSubnets_ok h
  refine ⟨news, rfl, hmade, fun jc sn hmem => ?_⟩
  have hold : iNet.subnets.find? (fun v => equalFold sameOrbit v.name (cabinetName jc.2.id)) =
      none :=
    List.find?_eq_none.2 fun v hv => by simp [hfresh v hv jc (List.of_mem_zip hmem).1]
  rw [subnetbyName, List.find?_append, hold, find?_cabinetName hmade hids jc sn hmem]
  rfl

/-- A /16 network with VLAN range from 100 whose one subnet is named `CABINET_3`. -/
def net16Cabinet3 : IPV4Network :=
  { net16 with
    subnets := [{ cidr := ⟨IP.ofOctets 10 0 0 0, cidrMask 24⟩, name := "CABINET_3" }] }

theorem subnetbyName_after_genSubnets_river :
    ∃ iNet' : IPV4Network,
      net16Cabinet3.genSubnets riverGroup (cidrMask 24) "river" = .ok (iNet', none) ∧
      ∃ news : List IPV4Subnet, iNet'.subnets = net16Cabinet3.subnets ++ news ∧
        List.Forall₂ (MadeFor net16Cabinet3.vlanRange) (matchingCabinets "river" riverGroup)
          news ∧
        ∀ jc sn, (jc, sn) ∈ (matchingCabinets "river" riverGroup).zip news →
          iNet'.subnetbyName (fun _ _ => false) (cabinetName jc.2.id) = some sn :=
  ⟨_, rfl, subnetbyName_after_genSubnets _ net16Cabinet3 _ riverGroup (cidrMask 24) "river" rfl
    (by decide) (by decide)⟩

end IPV4Network

end CsiNetwork

import CsiNetwork.Csi.AddSubnet
import CsiNetwork.Csi.Reservations

/-!
# Lookups by name

`LookUpSubnet` matches subnet names exactly and reports a name that several subnets carry;
`SubnetbyName` matches them up to case and returns the first hit. `LookupReservation` returns
the first reservation of a name, and the map `ReservationsByName` builds keeps the last one.

Each lookup is first read off the list it scans: `lookUpSubnet_eq_entry_iff` and
`lookUpSubnet_notFound` through the indices of the subnets named exactly `name`,
`find?_eq_namedIndices` for the first of them, and `reservationsByName_eq` for the map.

What follows from those:

- after an `AddSubnet` that introduces a new name, `LookUpSubnet` returns the pointer
  `AddSubnet` returned (`lookUpSubnet_after_addSubnet`), and after a second subnet of the same
  name it reports both (`lookUpSubnet_after_addSubnet_repeated_name`);
- `LookupReservation` returns the first reservation of a name and the map the last, so the
  two agree when those are equal (`lookupReservation_eq_reservationsByName`) and part when
  they are not;
- the two subnet lookups agree unless the first subnet named as asked up to case has another
  name (`lookUpSubnet_agrees_subnetbyName`, `subnetbyName_ignores_case`).
-/

namespace CsiNetwork

open Ipam

/-- The first element `find?` returns from the enumerated list carries the element `find?`
returns from the list itself. -/
theorem find?_enumFrom_map {α : Type} (q : α → Bool) :
    ∀ (l : List α) (k : Nat), ((l.enumFrom k).find? fun p => q p.2).map (·.2) = l.find? q
  | [], _ => rfl
  | a :: l, k => by
    by_cases h : q a
    · simp [h]
    · simp [h, find?_enumFrom_map q l (k + 1)]

/-- `find?` with two tests that agree on the list. -/
theorem find?_congr_mem {α : Type} {p q : α → Bool} :
    ∀ {l : List α}, (∀ x ∈ l, p x = q x) → l.find? p = l.find? q
  | [], _ => rfl
  | a :: l, h => by
    rw [List.find?_cons, List.find?_cons, h a (List.mem_cons_self _ _),
      find?_congr_mem fun x hx => h x (List.mem_cons_of_mem _ hx)]

/-- `find?` with a test that implies another agrees with it when the first element passing the
weaker test passes the stronger one. -/
theorem find?_eq_of_first {α : Type} {p q : α → Bool} (hqp : ∀ x, q x = true → p x = true) :
    ∀ {l : List α}, (∀ v, l.find? p = some v → q v = true) → l.find? q = l.find? p
  | [], _ => rfl
  | a :: l, h => by
    by_cases hp : p a
    · rw [List.find?_cons_of_pos _ hp] at h ⊢
      rw [List.find?_cons_of_pos _ (h a rfl)]
    · rw [List.find?_cons_of_neg _ hp] at h ⊢
      rw [List.find?_cons_of_neg _ fun hq => hp (hqp a hq), find?_eq_of_first hqp h]

namespace IPV4Subnet

/-! ## `ReservationsByName` and `LookupReservation` -/

/-- The map after a run of writes holds, at `name`, the last reservation of that name
written, and otherwise what it held before. -/
theorem foldl_update_apply (name : String) : ∀ (l : List IPReservation)
    (m : String → Option IPReservation),
    l.foldl (fun (r : String → Option IPReservation) v => Function.update r v.name (some v)) m
        name =
      (l.reverse.find? fun v => name = v.name).or (m name)
  | [], _ => rfl
  | a :: l, m => by
    rw [List.foldl_cons, foldl_update_apply name l, List.reverse_cons, List.find?_append,
      Option.or_assoc, Function.update_apply]
    by_cases hc : name = a.name <;> simp [hc]

/-- `ReservationsByName()[name]` is the last reservation named `name`. -/
theorem reservationsByName_eq (s : IPV4Subnet) (name : String) :
    s.reservationsByName name = s.ipReservations.reverse.find? fun v => name = v.name := by
  rw [reservationsByName, foldl_update_apply, Option.or_none]

/-- **`LookupReservation` returns the first reservation of a name and the map the last**, so
the two lookups agree on a name whose first and last reservations are equal, in particular on
a name at most one reservation carries, where both are the zero reservation when none does. -/
theorem lookupReservation_eq_reservationsByName (s : IPV4Subnet) (name : String)
    (h : (s.ipReservations.find? fun v => name = v.name) =
      s.ipReservations.reverse.find? fun v => name = v.name) :
    s.lookupReservation name = s.reservationsByName name ∧
    ∀ name', s.lookupReservation name' = (s.ipReservations.find? fun v => name' = v.name) ∧
      s.reservationsByName name' = s.ipReservations.reverse.find? fun v => name' = v.name := by
  have hgen : ∀ name', s.lookupReservation name' =
      (s.ipReservations.find? fun v => name' = v.name) ∧
      s.reservationsByName name' = s.ipReservations.reverse.find? fun v => name' = v.name :=
    fun name' => ⟨rfl, reservationsByName_eq s name'⟩
  exact ⟨(hgen name).1.trans (h.trans (hgen name).2.symm), hgen⟩

theorem lookupReservation_eq_reservationsByName_ab :
    ((runCalls subnet24 (addCalls [("a", ""), ("b", "")])).ipReservations.find?
        (fun v => "a" = v.name) =
      (runCalls subnet24 (addCalls [("a", ""), ("b", "")])).ipReservations.reverse.find?
        fun v => "a" = v.name) ∧
    (runCalls subnet24 (addCalls [("a", ""), ("b", "")])).lookupReservation "a" =
      (runCalls subnet24 (addCalls [("a", ""), ("b", "")])).reservationsByName "a" ∧
    ∀ name', (runCalls subnet24 (addCalls [("a", ""), ("b", "")])).lookupReservation name' =
        ((runCalls subnet24 (addCalls [("a", ""), ("b", "")])).ipReservations.find?
          fun v => name' = v.name) ∧
      (runCalls subnet24 (addCalls [("a", ""), ("b", "")])).reservationsByName name' =
        (runCalls subnet24 (addCalls [("a", ""), ("b", "")])).ipReservations.reverse.find?
          fun v => name' = v.name :=
  ⟨by decide, lookupReservation_eq_reservationsByName _ _ (by decide)⟩

/-- Two `AddReservation` calls under one name: `LookupReservation` returns the first, at
`.2`, while the map keeps the second, at `.3`. -/
theorem lookupReservation_ne_reservationsByName :
    (runCalls subnet24 (addCalls [("a", ""), ("a", "")])).lookupReservation "a" =
      some { ipAddress := IP.ofOctets 10 0 0 2, name := "a", comment := "" } ∧
    (runCalls subnet24 (addCalls [("a", ""), ("a", "")])).reservationsByName "a" =
      some { ipAddress := IP.ofOctets 10 0 0 3, name := "a", comment := "" } := by
  constructor <;> rfl

end IPV4Subnet

namespace IPV4Network

/-! ## `LookUpSubnet` and `SubnetbyName` -/

variable {iNet : IPV4Network} {name : String}

theorem lookUpSubnet_eq (iNet : IPV4Network) (name : String) :
    iNet.lookUpSubnet name =
      match namedIndices iNet name with
      | [] => (.blank, some (.subnetNotFound name))
      | [i] => (.entry i, none)
      | found@(i :: _) => (.entry i, some (.foundMany found.length)) := by
  unfold lookUpSubnet
  split
  · rename_i h
    simp [namedIndices, List.length_eq_zero.1 h]
  · rfl

/-- `LookUpSubnet` returns entry `i` with a nil error exactly when `i` is the one index of a
subnet named `name`. -/
theorem lookUpSubnet_eq_entry_iff {i : Nat} :
    iNet.lookUpSubnet name = (.entry i, none) ↔ namedIndices iNet name = [i] := by
  rw [lookUpSubnet_eq]
  rcases namedIndices iNet name with _ | ⟨j, _ | ⟨j', rest⟩⟩ <;> simp

/-- `LookUpSubnet` reports `name` as not found exactly when no subnet is named `name`. -/
theorem lookUpSubnet_notFound :
    (iNet.lookUpSubnet name).2 = some (.subnetNotFound name) ↔ namedIndices iNet name = [] := by
  rw [lookUpSubnet_eq]
  rcases namedIndices iNet name with _ | ⟨j, _ | ⟨j', rest⟩⟩ <;> simp

/-- The first subnet named exactly `name` is the one at the first index of `namedIndices`. -/
theorem find?_eq_namedIndices (iNet : IPV4Network) (name : String) :
    (iNet.subnets.find? fun v => v.name = name) =
      (namedIndices iNet name).head?.bind fun i => iNet.subnets[i]? := by
  rw [namedIndices, List.head?_map, List.filter_head?,
    ← find?_enumFrom_map (fun v : IPV4Subnet => decide (v.name = name)) iNet.subnets 0]
  simp only [List.enum]
  cases hp : ((iNet.subnets.enumFrom 0).find? fun v => v.2.name = name) with
  | none => rfl
  | some p =>
    have hmem : iNet.subnets[p.1]? = some p.2 :=
      List.mem_enum_iff_getElem?.1 (List.mem_of_find?_eq_some hp)
    simp [hmem]

/-- When the subnet `SubnetbyName` returns is named exactly `name`, it is the first subnet
named exactly `name`. -/
theorem subnetbyName_eq_find? {sameOrbit : Char → Char → Bool}
    (hcase : ∀ v, iNet.subnetbyName sameOrbit name = some v → v.name = name) :
    iNet.subnetbyName sameOrbit name = iNet.subnets.find? fun v => v.name = name :=
  (find?_eq_of_first (fun v hv => by rw [of_decide_eq_true hv, equalFold_self])
    fun v hv => decide_eq_true (hcase v hv)).symm

/-- On ASCII names `SubnetbyName` does not depend on the Unicode folding table. -/
theorem subnetbyName_congr_ascii (sameOrbit sameOrbit' : Char → Char → Bool)
    (hs : ∀ v ∈ iNet.subnets, ∀ c ∈ v.name.data, c.val < 0x80)
    (hn : ∀ c ∈ name.data, c.val < 0x80) :
    iNet.subnetbyName sameOrbit name = iNet.subnetbyName sameOrbit' name :=
  find?_congr_mem fun v hv => equalFold_congr_ascii sameOrbit' (hs v hv) hn

/-- No index is named `name` exactly when no subnet is. -/
theorem namedIndices_eq_nil_iff : namedIndices iNet name = [] ↔ ∀ v ∈ iNet.subnets, v.name ≠ name := by
  simp only [namedIndices, List.map_eq_nil_iff, List.filter_eq_nil_iff, decide_eq_true_eq]
  refine ⟨fun h v hv => ?_, fun h p hp => h p.2 (List.snd_mem_of_mem_enum hp)⟩
  obtain ⟨i, hi⟩ := List.mem_iff_getElem?.1 hv
  exact h (i, v) (List.mem_enum_iff_getElem?.2 hi)

/-- Appending a subnet appends its index when it carries the name. -/
theorem namedIndices_append (iNet : IPV4Network) (sn : IPV4Subnet) (name : String) :
    namedIndices { iNet with subnets := iNet.subnets ++ [sn] } name =
      namedIndices iNet name ++ if sn.name = name then [iNet.subnets.length] else [] := by
  by_cases h : sn.name = name <;> simp [namedIndices, List.enum_append, h]

/-- **The two subnet lookups agree when the first subnet named `name` up to case is named
exactly `name`.** Where `LookUpSubnet` returns entry `i` with a nil error, `SubnetbyName`
returns a copy of entry `i`; where it reports `name` as not found, `SubnetbyName` returns the
blank subnet. -/
theorem lookUpSubnet_agrees_subnetbyName (sameOrbit : Char → Char → Bool) (iNet : IPV4Network)
    (name : String)
    (hcase : ∀ v, iNet.subnetbyName sameOrbit name = some v → v.name = name) :
    (∀ i, iNet.lookUpSubnet name = (.entry i, none) →
      iNet.subnetbyName sameOrbit name = iNet.subnets[i]?) ∧
    ((iNet.lookUpSubnet name).2 = some (.subnetNotFound name) →
      iNet.subnetbyName sameOrbit name = none) := by
  rw [subnetbyName_eq_find? hcase, find?_eq_namedIndices]
  refine ⟨fun i h => ?_, fun h => ?_⟩
  · rw [lookUpSubnet_eq_entry_iff.1 h]
    rfl
  · rw [lookUpSubnet_notFound.1 h]
    rfl

/-- A network whose subnets carry the given names; their blocks play no part in a lookup. -/
def namedNet (names : List String) : IPV4Network :=
  { cidr := "10.0.0.0/24",
    subnets := names.map fun n => { cidr := ⟨IP.ofOctets 10 0 0 0, cidrMask 26⟩, name := n } }

theorem lookUpSubnet_agrees_subnetbyName_ab :
    (∀ v, (namedNet ["a", "b"]).subnetbyName (fun _ _ => false) "b" = some v → v.name = "b") ∧
    (namedNet ["a", "b"]).subnetbyName (fun _ _ => false) "b" = (namedNet ["a", "b"]).subnets[1]? :=
  ⟨fun v hv => by cases hv; rfl, (lookUpSubnet_agrees_subnetbyName _ _ _
    fun v hv => by cases hv; rfl).1 1 rfl⟩

/-- With subnets named `Foo` and `foo`, `LookUpSubnet "foo"` returns entry 1 while
`SubnetbyName "foo"` returns a copy of entry 0; with one subnet named `FOO`, the first reports
`foo` as not found while the second returns that subnet. The names are ASCII, so this holds
whatever the Unicode folding table. -/
theorem subnetbyName_ignores_case :
    (namedNet ["Foo", "foo"]).lookUpSubnet "foo" = (.entry 1, none) ∧
      (∀ sameOrbit, (namedNet ["Foo", "foo"]).subnetbyName sameOrbit "foo" =
        (namedNet ["Foo", "foo"]).subnets[0]?) ∧
      (namedNet ["Foo", "foo"]).subnets[0]? ≠ (namedNet ["Foo", "foo"]).subnets[1]? ∧
    (namedNet ["FOO"]).lookUpSubnet "foo" = (.blank, some (.subnetNotFound "foo")) ∧
      ∀ sameOrbit, (namedNet ["FOO"]).subnetbyName sameOrbit "foo" =
        (namedNet ["FOO"]).subnets[0]? := by
  refine ⟨by decide, fun sameOrbit => ?_, by decide, by decide, fun sameOrbit => ?_⟩
  · rw [@subnetbyName_congr_ascii (namedNet ["Foo", "foo"]) "foo" sameOrbit (fun _ _ => false)
      (by decide) (by decide)]
    decide
  · rw [@subnetbyName_congr_ascii (namedNet ["FOO"]) "foo" sameOrbit (fun _ _ => false)
      (by decide) (by decide)]
    decide

/-! ## `LookUpSubnet` after `AddSubnet` -/

/-- **`LookUpSubnet` finds what `AddSubnet` added under a new name.** When no subnet of the
network carries `name`, a successful `AddSubnet` appends its subnet at index `len`, and
`LookUpSubnet name` then returns that entry with a nil error. -/
theorem lookUpSubnet_after_addSubnet {iNet iNet' : IPV4Network} {mask : IPMask} {name : String}
    {vlanID : VlanID} {sn : IPV4Subnet}
    (h : iNet.addSubnet mask name vlanID = .ok (iNet', .ok sn))
    (hfresh : ∀ v ∈ iNet.subnets, v.name ≠ name) :
    iNet'.lookUpSubnet name = (.entry iNet.subnets.length, none) ∧
      iNet'.subnets[iNet.subnets.length]? = some sn := by
  obtain ⟨-, -, -, hsn, rfl⟩ := addSubnet_ok h
  have hname : sn.name = name := congrArg IPV4Subnet.name hsn
  refine ⟨lookUpSubnet_eq_entry_iff.2 ?_, List.getElem?_concat_length _ _⟩
  rw [namedIndices_append, namedIndices_eq_nil_iff.2 hfresh, if_pos hname]
  rfl

theorem lookUpSubnet_after_addSubnet_second_name :
    ∃ iNet₁ iNet₂ sn₁ sn₂, net24.addSubnet (cidrMask 26) "a" 0 = .ok (iNet₁, .ok sn₁) ∧
      iNet₁.addSubnet (cidrMask 26) "x" 0 = .ok (iNet₂, .ok sn₂) ∧
      (∀ v ∈ iNet₁.subnets, v.name ≠ "x") ∧
      iNet₂.lookUpSubnet "x" = (.entry iNet₁.subnets.length, none) ∧
      iNet₂.subnets[iNet₁.subnets.length]? = some sn₂ := by
  refine ⟨_, _, _, _, rfl, rfl, ?_⟩
  exact ⟨by decide, @lookUpSubnet_after_addSubnet _ _ (cidrMask 26) "x" 0 _ rfl (by decide)⟩

/-- A second `AddSubnet` under the same name succeeds too, and `LookUpSubnet` then returns
the first subnet of that name with `foundMany`, not the pointer the second call returned. -/
theorem lookUpSubnet_after_addSubnet_repeated_name :
    ∃ iNet₁ iNet₂ sn₁ sn₂, net24.addSubnet (cidrMask 26) "x" 0 = .ok (iNet₁, .ok sn₁) ∧
      iNet₁.addSubnet (cidrMask 26) "x" 0 = .ok (iNet₂, .ok sn₂) ∧
      iNet₂.lookUpSubnet "x" = (.entry 0, some (.foundMany 2)) :=
  ⟨_, _, _, _, rfl, rfl, rfl⟩

end IPV4Network

end CsiNetwork

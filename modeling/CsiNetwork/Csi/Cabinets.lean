import Mathlib.Data.List.Nodup
import Mathlib.Algebra.Group.Int
import CsiNetwork.Csi.Subnet

/-!
# Cabinet groups

`pkg/csi/cabinets.go`: the descriptions of cabinet groups that drive `GenSubnets`, and the
methods on them. `CabinetDetail.Subnet`, `CabinetTypes` and the file loader are not used by
any modelled function and are left out.

Go's `int` is 64 bits wide. The fields hold its values as `Int`, and the one sum that can
leave its range, the loop bound `StartingCabinet + Cabinets` of `PopulateIds`, wraps as Go's
does (`addInt`). Below the wrap `PopulateIds` appends `Cabinets` ids
(`populateIds_cabinetIDs_nodup`); past it the bound is negative and it appends nothing
(`populateIds_of_overflow`).
-/

namespace CsiNetwork

/-- `CabinetDetail`: one cabinet, with an explicit VLAN id when it is non-zero. -/
structure CabinetDetail where
  id : Int
  vlanID : VlanID := 0
deriving DecidableEq, Repr

/-- `CabinetGroupDetail`: a kind of cabinet, how many there are, the first id, and the
cabinets listed so far. -/
structure CabinetGroupDetail where
  kind : String
  cabinets : Int := 0
  startingCabinet : Int := 0
  cabinetDetails : List CabinetDetail := []
deriving DecidableEq, Repr

namespace CabinetGroupDetail

/-- `CabinetIDs`: the listed cabinets' ids, in order. -/
def cabinetIDs (cgd : CabinetGroupDetail) : List Int := cgd.cabinetDetails.map (·.id)

/-- Go's `int` addition: the sum wrapped into `[-2 ^ 63, 2 ^ 63)`, two's complement. -/
def addInt (a b : Int) : Int := (a + b).bmod (2 ^ 64)

/-- `PopulateIds`: when fewer cabinets are listed than `Cabinets`, append the cabinets
`cabID = StartingCabinet, StartingCabinet + 1, …` while `cabID < StartingCabinet + Cabinets`,
the bound computed in Go's `int`. `cabID++` stays at or below the bound, so it never wraps. -/
def populateIds (cgd : CabinetGroupDetail) : CabinetGroupDetail :=
  if (cgd.cabinetDetails.length : Int) < cgd.cabinets then
    { cgd with
      cabinetDetails := cgd.cabinetDetails ++
        (List.range (addInt cgd.startingCabinet cgd.cabinets - cgd.startingCabinet).toNat).map
          fun k => { id := cgd.startingCabinet + k } }
  else cgd

/-- `Length`: the number of listed cabinets, or `Cabinets` when none is listed. -/
def length (cgd : CabinetGroupDetail) : Int :=
  if cgd.cabinetDetails.length = 0 then cgd.cabinets else cgd.cabinetDetails.length

/-! ## Go's `int` sum -/

/-- A sum of two `int` values past `2 ^ 63 - 1` wraps to a negative one. -/
theorem addInt_of_overflow {a b : Int} (ha : a < 2 ^ 63) (hb : b < 2 ^ 63)
    (hov : 2 ^ 63 ≤ a + b) : addInt a b = a + b - 2 ^ 64 := by
  rw [addInt, Int.bmod_def]
  push_cast
  split <;> omega

/-! ## What `PopulateIds` lists -/

/-- A group whose bound `StartingCabinet + Cabinets` wraps is left as it is: the wrapped bound
lies below `StartingCabinet`, so the loop never runs. -/
theorem populateIds_of_overflow (cgd : CabinetGroupDetail) (hs : cgd.startingCabinet < 2 ^ 63)
    (hc : cgd.cabinets < 2 ^ 63) (hov : 2 ^ 63 ≤ cgd.startingCabinet + cgd.cabinets) :
    cgd.populateIds = cgd := by
  have hnone : (cgd.startingCabinet + cgd.cabinets - 2 ^ 64 - cgd.startingCabinet).toNat = 0 := by
    omega
  rw [populateIds, addInt_of_overflow hs hc hov, hnone]
  split <;> simp

example : ({ kind := "river", cabinets := 2, startingCabinet := 2 ^ 63 - 1 } :
    CabinetGroupDetail).populateIds.cabinetDetails = [] := by decide

/-- A river group of two cabinets from 1 that lists cabinet 1 already. -/
def partialRiver : CabinetGroupDetail :=
  { kind := "river", cabinets := 2, startingCabinet := 1, cabinetDetails := [{ id := 1 }] }

/-- On `partialRiver`, `PopulateIds` lists cabinet 1 twice and three cabinets in all, not
`max 1 2 = 2`. -/
theorem populateIds_partial_list :
    partialRiver.cabinetIDs.Nodup ∧ partialRiver.populateIds.cabinetIDs = [1, 1, 2] ∧
      ¬partialRiver.populateIds.cabinetIDs.Nodup ∧
      (partialRiver.populateIds.cabinetDetails.length : Int) ≠
        max (partialRiver.cabinetDetails.length : Int) partialRiver.cabinets := by
  decide

end CabinetGroupDetail

end CsiNetwork

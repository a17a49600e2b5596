import CsiNetwork.Net.IP

/-!
# How calls fail

Two kinds of failure are kept apart. A `CsiError` is a Go `error` value that a method returns
to its caller, after which the caller still holds the receiver (so whether the receiver was
changed is a property of the method). An `Abort` ends the call without returning: a runtime
panic, `log.Fatalf`, or a loop that never exits.
-/

namespace CsiNetwork

/-- The `error` values the engine returns. -/
inductive CsiError where
  /-- Modelled from the spec: `ipam.Free` ran past the end of the parent block. -/
  | noSpaceAvailable
  /-- `AddSubnetbyCIDR`: the requested block is not inside the network's block. -/
  | notPartOf (desiredNet myNet : IPNet)
  /-- `AddBiggestSubnet`: none of the sizes tried from `maskSize` fits. -/
  | noRoom (name netName : String) (maskSize : Nat)
  /-- `LookUpSubnet`: no subnet has the name. -/
  | subnetNotFound (name : String)
  /-- `LookUpSubnet`: `count` subnets have the name. -/
  | foundMany (count : Nat)
deriving DecidableEq, Repr

/-- The text of each error, as the source's `fmt.Errorf` formats it. The spec names
`NoSpaceAvailable` but not its text; its name stands in for it. -/
def CsiError.message : CsiError → String
  | .noSpaceAvailable => "NoSpaceAvailable"
  | .notPartOf desiredNet myNet =>
    "subnet " ++ desiredNet.toString ++ " is not part of " ++ myNet.toString
  | .noRoom name netName maskSize =>
    "no room for " ++ name ++ " subnet within " ++ netName ++ " (tried from /" ++
      Nat.repr maskSize ++ " to /29)"
  | .subnetNotFound name => "subnet not found \"" ++ name ++ "\""
  | .foundMany count => "found " ++ Nat.repr count ++ " subnets instead of just one"

/-- The ways a call ends without returning to its caller. -/
inductive Abort where
  /-- `*myNet` after `net.ParseCIDR(iNet.CIDR)` failed: a nil pointer dereference. -/
  | nilDereference
  /-- `iNet.VlanRange[0]` on an empty range: an index out of range. -/
  | indexOutOfRange
  /-- `log.Fatalf` with the text it prints before the process exits. -/
  | fatal (msg : String)
  /-- A loop whose condition never becomes false. -/
  | diverges
deriving DecidableEq, Repr

end CsiNetwork

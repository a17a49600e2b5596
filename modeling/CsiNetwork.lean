import CsiNetwork.Net.IP
import CsiNetwork.Net.ParseCIDR
import CsiNetwork.Strings.EqualFold
import CsiNetwork.Strings.Decimal
import CsiNetwork.Errors
import CsiNetwork.Ipam.Block
import CsiNetwork.Ipam.Free
import CsiNetwork.Net.CidrText
import CsiNetwork.Net.ParseIP
import CsiNetwork.Csi.Subnet
import CsiNetwork.Csi.Reservations
import CsiNetwork.Csi.DhcpRange
import CsiNetwork.Csi.Cabinets
import CsiNetwork.Csi.Network
import CsiNetwork.Csi.AddSubnet
import CsiNetwork.Csi.GenSubnets
import CsiNetwork.Csi.NetworkCalls
import CsiNetwork.Csi.Lookups
import CsiNetwork.Csi.CabinetLookup
import CsiNetwork.Csi.Switches
import CsiNetwork.Cmd.Init
import CsiNetwork.Cmd.Flags
import CsiNetwork.Pit.MetalLB

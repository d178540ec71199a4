import VmCommon.Encoding
import VmCommon.Types
import VmCommon.Accounts
import VmCommon.Sample
import VmCommon.BuiltInFunctions.Keys
import VmCommon.BuiltInFunctions.Roles
import VmCommon.BuiltInFunctions.NFTCreate
import VmCommon.BuiltInFunctions.Payable
import VmCommon.BuiltInFunctions.RoleTransfer
import VmCommon.System.World
import VmCommon.System.CreateRole
import VmCommon.System.Store
import VmCommon.System.Liquidity
import VmCommon.TxDataBuilder
import VmCommon.Parsers.DataField

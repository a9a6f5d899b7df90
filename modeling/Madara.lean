import Madara.Primitives.Felt
import Madara.Sync.Utility
import Madara.ChainConfig.VersionedConstants
import Madara.ChainConfig.Deserialize
import Madara.ChainConfig.Presets
import Madara.Gateway.Receipt
import Madara.Gateway.RoundTrip
import Madara.Rpc.NewHeads
import Madara.Rpc.NewHeadsRuns
import Madara.Rpc.NewHeadsNode
import Madara.Node.RpcParams
import Madara.P2p.Run

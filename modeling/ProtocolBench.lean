import ProtocolBench.Respb.Wire
import ProtocolBench.Respb.Opcode
import ProtocolBench.Respb.ParseM
import ProtocolBench.Respb.Parser
import ProtocolBench.Respb.Safety
import ProtocolBench.Respb.Bytes
import ProtocolBench.Respb.Runs
import ProtocolBench.Respb.Frames
import ProtocolBench.Respb.Counted
import ProtocolBench.Respb.Stable
import ProtocolBench.Respb.Serializer
import ProtocolBench.Respb.RoundTrip
import ProtocolBench.Respb.Cursor
import ProtocolBench.Respb.Capacity
import ProtocolBench.Respb.Codec
import ProtocolBench.Respb.ModuleCodec
import ProtocolBench.Resp.Client
import ProtocolBench.Resp.Parse
import ProtocolBench.Resp.Decimal
import ProtocolBench.Resp.Numeral
import ProtocolBench.Resp.Frame
import ProtocolBench.Resp.Deliver
import ProtocolBench.Resp.Driver
import ProtocolBench.Resp.Workload
import ProtocolBench.Resp.Invariant
import ProtocolBench.Resp.Replay
import ProtocolBench.Resp.Synthetic
import ProtocolBench.Resp.Stop
import ProtocolBench.Resp.Accepts
import ProtocolBench.Resp.Resume
import ProtocolBench.Bench.Latency
import ProtocolBench.Bench.RespbReplay
import ProtocolBench.Bench.Run

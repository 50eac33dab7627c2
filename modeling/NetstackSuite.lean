import NetstackSuite.Runner.Lifecycle
import NetstackSuite.Runner.Replay
import NetstackSuite.Runner.BadLines
import NetstackSuite.Runner.Channel
import NetstackSuite.Runner.Launch
import NetstackSuite.PacketEngine.Responder
import NetstackSuite.Proxy.Socks5Acceptance
import NetstackSuite.Proxy.MessageOrder
import NetstackSuite.Proxy.FailureDiscipline
import NetstackSuite.Proxy.AddressCodec
import NetstackSuite.Gui.Verdict
import NetstackSuite.Gui.TestTree
import NetstackSuite.Reporting.RunArtifacts
import NetstackSuite.Reporting.CatalogLookup
import NetstackSuite.Proxy.HeadExact
import NetstackSuite.Proxy.EndOfStream
import NetstackSuite.Proxy.StatusLine
import NetstackSuite.Proxy.Encoders
import NetstackSuite.Runner.MarkerTerms
import NetstackSuite.Proxy.EchoAccounting
import NetstackSuite.Gui.RunDelivery
import NetstackSuite.Proxy.RoundTrip
import NetstackSuite.PacketEngine.Sequence
import NetstackSuite.Plotting.Timeline
import NetstackSuite.Reporting.Compatibility
import NetstackSuite.Runner.Framing
import NetstackSuite.Proxy.BackendLifecycle
import NetstackSuite.Proxy.Serving
import NetstackSuite.Proxy.Inducer
import NetstackSuite.Proxy.InducerLoops
import NetstackSuite.Proxy.InducerAccounting
import NetstackSuite.Gui.TestTargets
import NetstackSuite.Gui.HostPort
import NetstackSuite.Tests.SequencePrediction
import NetstackSuite.Tests.Session
import NetstackSuite.PacketEngine.RstGuard
import NetstackSuite.PacketEngine.UdpEcho
import NetstackSuite.PacketEngine.Capture
import NetstackSuite.PacketEngine.RecorderThreads
import NetstackSuite.Gui.RoleWarning
import NetstackSuite.Gui.LiveOutput
import NetstackSuite.Cli.Reproduction
import NetstackSuite.Reporting.HtmlStructure
import NetstackSuite.Runner.ReplayedLines
import NetstackSuite.Cli.RunDirectory
import NetstackSuite.Gui.WindowRuns

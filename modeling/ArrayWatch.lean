import ArrayWatch.Link.Scripted
import ArrayWatch.Link.Tcp
import ArrayWatch.Main
import ArrayWatch.Monitor.Timers
import ArrayWatch.Wire.Framing
import ArrayWatch.Proofs.LineStream
import ArrayWatch.Proofs.RequestOrder
import ArrayWatch.Proofs.WireRoundTrip
import ArrayWatch.Proofs.LatestReading
import ArrayWatch.Proofs.Routing
import ArrayWatch.Proofs.TreeLookup
import ArrayWatch.Proofs.ArrayRun
import ArrayWatch.Proofs.TreeInvariant
import ArrayWatch.Proofs.Reconnection
import ArrayWatch.Proofs.ComingUp
import ArrayWatch.Proofs.ArrayRanking
import ArrayWatch.Proofs.ChannelCoherence
import ArrayWatch.Proofs.FleetBooks
import ArrayWatch.Proofs.Publication
import ArrayWatch.Proofs.DashboardSecrecy
import ArrayWatch.Proofs.BatchReading
import ArrayWatch.Proofs.RetryCap
import ArrayWatch.Proofs.TcpProtocol
import ArrayWatch.Proofs.NameGrammar
import ArrayWatch.Proofs.VirtualStatus
import ArrayWatch.Proofs.HostMappings
import ArrayWatch.Proofs.InputLabels
import ArrayWatch.Proofs.Reactivation
import ArrayWatch.Proofs.ArrayKeys
import ArrayWatch.Proofs.Announcements
import ArrayWatch.Proofs.PatternFiles
import ArrayWatch.Proofs.BasicCredentials
import ArrayWatch.Proofs.RequestStream
import ArrayWatch.Proofs.ChannelGauges
import ArrayWatch.Proofs.FailedAdditions
import ArrayWatch.Proofs.HandingOver

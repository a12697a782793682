import Jrxtx.Transition.System
import Jrxtx.Transition.Exclusive
import Jrxtx.CommPortIdentifier.Core
import Jrxtx.CommPortIdentifier.Open
import Jrxtx.CommPortIdentifier.Ownership
import Jrxtx.Heap.Chain
import Jrxtx.CommPortIdentifier.Registry
import Jrxtx.CommPortIdentifier.Enumeration
import Jrxtx.CommPortIdentifier.Restoration
import Jrxtx.CommPortIdentifier.Reenumeration
import Jrxtx.CommPortIdentifier.Acyclic
import Jrxtx.CommPortIdentifier.Release
import Jrxtx.SerialImp.WriteArray
import Jrxtx.RXTXPort.Listener
import Jrxtx.RXTXPort.Write
import Jrxtx.RXTXPort.Close
import Jrxtx.SerialImp.LockExclusion
import Jrxtx.SerialImp.Params
import Jrxtx.SerialImp.Preopened
import Jrxtx.SerialImp.StaticOpen
import Jrxtx.CommPortIdentifier.Lookup
import Jrxtx.JRxTxPort.OpenSerialPort
import Jrxtx.CommPortIdentifier.FailedEnumeration
import Jrxtx.Heap.Doubly
import Jrxtx.SerialImp.PreopenedList
import Jrxtx.Termios.OpenPorts
import Jrxtx.LockDaemon.Requests
import Jrxtx.LockDaemon.Locking
import Jrxtx.LockDaemon.Session
import Jrxtx.JRxTxPort.Setters
import Jrxtx.RXTXCommDriver.Initialize
import Jrxtx.JRxTxPort.Listing
import Jrxtx.JRxTxPort.Concurrent
import Jrxtx.JRxTxPort.CloseReleases
import Jrxtx.SerialImp.DataAvailable
import Jrxtx.CommPortIdentifier.Wakeup
import Jrxtx.SerialImp.EventLoop
import Jrxtx.SerialImp.ReadArray
import Jrxtx.SerialImp.ReadTerminatedArray
import Jrxtx.RXTXPort.Read
import Jrxtx.JRxTxPort.FlowControlMode
import Jrxtx.JRxTxPort.TimedRead
import Jrxtx.LockDaemon.Buffers
import Jrxtx.LockDaemon.Grammar
import Jrxtx.LockDaemon.Lines
import Jrxtx.RXTXPort.ReceiveTimeout
import Jrxtx.SerialImp.Decoders
import Jrxtx.Termios.Attributes
import Jrxtx.Termios.RoundTrip
import Jrxtx.Termios.SerialRead
import Jrxtx.SerialImp.StaticQueries
import Jrxtx.SerialImp.ReportedEvents
import Jrxtx.RXTXPort.ListenerLife
import Jrxtx.CommPortIdentifier.Enumerator
import Jrxtx.CommPortIdentifier.OwnershipWalk
import Jrxtx.LPRPort.Core
import Jrxtx.RXTXCommDriver.ScannedPorts
import Jrxtx.Transition.Loop
import Jrxtx.ParallelImp.ReadArray
import Jrxtx.RS485.WriteArray
import Jrxtx.WinCE.ReadArray
import Jrxtx.LPRPort.Close
import Jrxtx.RS485.Read
import Jrxtx.CommPortIdentifier.NamedLookup
import Jrxtx.JRxTxPort.NamedPort
import Jrxtx.SerialImp.FhsLock
import Jrxtx.SerialImp.TestRead
import Jrxtx.SerialImp.BaseName
import Jrxtx.SerialImp.BaudBase
import Jrxtx.SerialImp.ReadBounds
import Jrxtx.FuserImp.ReportOwner
import Jrxtx.SerialImp.IsDeviceLocked
import Jrxtx.WinCE.EventMemory
import Jrxtx.LockDaemon.Service
import Jrxtx.LPRPort.Monitor
import Jrxtx.RXTXPort.SendEvent
import Jrxtx.RXTXPort.Transfer
import Jrxtx.SerialImp.DrainLoop
import Jrxtx.SerialImp.ModemLines
import Jrxtx.SerialImp.SharedTermios
import Jrxtx.Termios.CommErrors

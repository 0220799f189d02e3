import StackScope.Host.Run
import StackScope.Main
import StackScope.Prototype.Builder
import StackScope.Proofs.Boxed.Refinement
import StackScope.Proofs.HostBalance
import StackScope.Proofs.Naming.LastSetter
import StackScope.Proofs.Naming.Origin
import StackScope.Proofs.CallHistory
import StackScope.Proofs.FrameOnTop
import StackScope.Proofs.LibraryTransparency
import StackScope.Proofs.Storage
import StackScope.Proofs.AssociationMap
import StackScope.Proofs.LibraryFootprint
import StackScope.Proofs.FrameFunctions
import StackScope.Proofs.TracebackLines
import StackScope.Proofs.Scenario.Definitions
import StackScope.Proofs.Scenario.Frames
import StackScope.Proofs.Scenario.Replay
import StackScope.Proofs.Scenario.Build
import StackScope.Proofs.DepthLimit
import StackScope.Proofs.CallReturn
import StackScope.Proofs.HostChain
import StackScope.Proofs.LocalSlots
import StackScope.Proofs.InfoTable
import StackScope.Proofs.Naming.SelfCall
import StackScope.Proofs.ScopeOrder
import StackScope.Proofs.InfoContract
import StackScope.Proofs.Stripping
import StackScope.Proofs.Scenario.SharedUpvalues
import StackScope.Proofs.Assembly
import StackScope.Proofs.LocalRoom
import StackScope.Proofs.RegisterWindow
import StackScope.Proofs.VariableListing
import StackScope.Proofs.ShortNames
import StackScope.Proofs.PhysicalLines
import StackScope.Proofs.Notation.Settings

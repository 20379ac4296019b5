import PointerOrigins.Bitcode.Conversion
import PointerOrigins.CommandLine
import PointerOrigins.Event
import PointerOrigins.Ir.Builder
import PointerOrigins.Ir.Edit
import PointerOrigins.Main
import PointerOrigins.Proofs.DepthFirst
import PointerOrigins.Proofs.StackRun
import PointerOrigins.Proofs.RecursiveTrace
import PointerOrigins.Proofs.TraceExactness
import PointerOrigins.Proofs.TraceDepth
import PointerOrigins.Proofs.CallSites
import PointerOrigins.Proofs.TransferEquations
import PointerOrigins.Proofs.ProgramOrder
import PointerOrigins.Proofs.CallSiteIndex
import PointerOrigins.Proofs.ReportExactness
import PointerOrigins.Proofs.UsedValues
import PointerOrigins.Proofs.ModuleExtension
import PointerOrigins.Proofs.CallOrInvoke
import PointerOrigins.Proofs.RewordedReport
import PointerOrigins.Proofs.Sessions
import PointerOrigins.Proofs.ResolvedValues
import PointerOrigins.Proofs.EnumerationOrder
import PointerOrigins.Proofs.FlowInsensitivity
import PointerOrigins.Proofs.BuilderChanges
import PointerOrigins.Proofs.BuilderFidelity
import PointerOrigins.Proofs.AliasResolution
import PointerOrigins.Proofs.ConvertedModules
import PointerOrigins.Proofs.ConversionSuccess
import PointerOrigins.Proofs.ConversionStructure
import PointerOrigins.Proofs.AliasSolution
import PointerOrigins.Proofs.HiddenReferences
import PointerOrigins.Proofs.OriginKinds
import PointerOrigins.Proofs.FilteredReport
import PointerOrigins.Proofs.FailedCalls
import PointerOrigins.Proofs.TraceTermination
import PointerOrigins.Proofs.IgnoredOperands
import PointerOrigins.Proofs.ReportLookup
import PointerOrigins.Proofs.CastChains
import PointerOrigins.Proofs.ConstantViews
import PointerOrigins.Proofs.LostDefinitions
import PointerOrigins.Proofs.SymbolKinds

import BuiltinWrappers.Main
import BuiltinWrappers.Program
import BuiltinWrappers.Proofs.Catalog.LineEndings
import BuiltinWrappers.Proofs.Catalog.Registration
import BuiltinWrappers.Proofs.CommandLine.Spelling
import BuiltinWrappers.Proofs.Declaration.Grammar
import BuiltinWrappers.Proofs.Signature.Recovery
import BuiltinWrappers.Proofs.Wrapper.Forwarding
import BuiltinWrappers.Proofs.Wrapper.FromText
import BuiltinWrappers.Proofs.Header.Agreement
import BuiltinWrappers.Proofs.Header.Definitions
import BuiltinWrappers.Proofs.Header.Expansion
import BuiltinWrappers.Proofs.Generation.AllOrNothing
import BuiltinWrappers.Proofs.Generation.Dependence
import BuiltinWrappers.Proofs.Generation.HookCalls
import BuiltinWrappers.Proofs.Generation.Repetition
import BuiltinWrappers.Proofs.Generation.Writing
import BuiltinWrappers.Proofs.Program.EarliestFault
import BuiltinWrappers.Proofs.Program.Isolation
import BuiltinWrappers.Proofs.Program.Outcome
import BuiltinWrappers.Proofs.Settings.Schema
import BuiltinWrappers.Proofs.Settings.Validity
import BuiltinWrappers.Proofs.Settings.Written

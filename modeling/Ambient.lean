import Ambient.Main
import Ambient.Property
import Ambient.Proofs.AccessorFree
import Ambient.Proofs.RootFilter
import Ambient.Proofs.InputOrder
import Ambient.Proofs.Idempotence
import Ambient.Proofs.LocalNames
import Ambient.Proofs.Templates
import Ambient.Proofs.Links
import Ambient.Proofs.DistinctNames
import Ambient.Proofs.Flattening
import Ambient.Proofs.ForcedDocs
import Ambient.Proofs.Frame
import Ambient.Proofs.FullMatch
import Ambient.Proofs.ExcludedNames
import Ambient.Proofs.OptionalTypes
import Ambient.Proofs.UnitNames
import Ambient.Proofs.ModuleGroups
import Ambient.Proofs.RecordTexts
import Ambient.Proofs.ShownTypes
import Ambient.Proofs.DumpText
import Ambient.Proofs.KnownNames
import Ambient.Proofs.PlainMethods
import Ambient.Proofs.Invocations
import Ambient.Proofs.DeclaredSignatures
import Ambient.Proofs.MemberwiseCleanup
import Ambient.Proofs.TakenCopies
import Ambient.Proofs.Overrides
import Ambient.Proofs.PublicOverloads
import Ambient.Proofs.TypeScopes
import Ambient.Proofs.ImportLines
import Ambient.Proofs.SearchCalls
import Ambient.Proofs.FunctionTypes
import Ambient.Proofs.InheritedDocs
import Ambient.Proofs.UnitKeys
import Ambient.Proofs.Heritage
import Ambient.Proofs.ReadAccessors
import Ambient.Proofs.Refusals
import Ambient.Proofs.NormalForm
import Ambient.Proofs.FirstDeclaration
import Ambient.Proofs.Comments

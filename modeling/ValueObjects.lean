import ValueObjects.Build
import ValueObjects.Derive
import ValueObjects.Proofs.Completion
import ValueObjects.Proofs.SharedPayloads
import ValueObjects.Proofs.References
import ValueObjects.Proofs.Rerun
import ValueObjects.Proofs.Resolution
import ValueObjects.Proofs.Stems
import ValueObjects.Proofs.Storing
import ValueObjects.Converter.Registry
import ValueObjects.Serializer
import ValueObjects.Proofs.SourceOrder
import ValueObjects.Proofs.ModuleFiles
import ValueObjects.Proofs.LoadedModules
import ValueObjects.Proofs.Outlines
import ValueObjects.Proofs.Spellings
import ValueObjects.Proofs.Adapters
import ValueObjects.Proofs.Eligibility
import ValueObjects.Proofs.ReadBack
import ValueObjects.Proofs.Registrations
import ValueObjects.Proofs.Documents
import ValueObjects.Proofs.Deriving
import ValueObjects.Proofs.Replacing
import ValueObjects.Proofs.Legibility
import ValueObjects.Proofs.WrittenUnits
import ValueObjects.Proofs.RegistryCalls
import ValueObjects.Proofs.KnownTypes
import ValueObjects.Proofs.PayloadReports
import ValueObjects.Proofs.CanonicalTypes
import ValueObjects.Proofs.WordCases
import ValueObjects.Proofs.ConverterWords
import ValueObjects.Proofs.AccessorNames
import ValueObjects.Proofs.AnchoredPayloads
import ValueObjects.Proofs.Accounting
import ValueObjects.Proofs.OwnUnits
import ValueObjects.Proofs.DistinctUnits
import ValueObjects.Proofs.TestModules
import ValueObjects.Proofs.InlineModules
import ValueObjects.Proofs.Conversions
import ValueObjects.Proofs.WholeNumbers
import ValueObjects.Proofs.DecimalTexts
import ValueObjects.Proofs.DeclaredNames

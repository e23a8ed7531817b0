import Phrasebook.Main
import Phrasebook.Registry
import Phrasebook.Template.Fill
import Phrasebook.Proofs.Consistency
import Phrasebook.Proofs.TemplateGrammar
import Phrasebook.Proofs.TemplateShapes
import Phrasebook.Proofs.Substitution
import Phrasebook.Proofs.CaseMaps
import Phrasebook.Proofs.Pieces
import Phrasebook.Proofs.LocaleTags
import Phrasebook.Proofs.FallbackChains
import Phrasebook.Proofs.TagGrammar
import Phrasebook.Proofs.FileNames
import Phrasebook.Proofs.FlatCatalogs
import Phrasebook.Proofs.CatalogSets
import Phrasebook.Proofs.CatalogFiles
import Phrasebook.Proofs.Discovery
import Phrasebook.Proofs.Resolution
import Phrasebook.Proofs.Shelves
import Phrasebook.Proofs.GeneratedCalls
import Phrasebook.Proofs.ArgumentNeeds
import Phrasebook.Proofs.Compatibility
import Phrasebook.Proofs.Transcripts
import Phrasebook.Proofs.Layers
import Phrasebook.Proofs.Reads
import Phrasebook.Proofs.Spellings
import Phrasebook.Proofs.PropertiesText
import Phrasebook.Proofs.DistinctSources
import Phrasebook.Proofs.Settling
import Phrasebook.Proofs.BuiltSpecs
import Phrasebook.Proofs.DefaultAuthority
import Phrasebook.Proofs.ToldFaults
import Phrasebook.Proofs.SharedResolvers
import Phrasebook.Proofs.Lookups
import Phrasebook.Proofs.DeclarationFaults
import Phrasebook.Proofs.DistinctOutputs
import Phrasebook.Proofs.StandIns
import Phrasebook.Proofs.LegalNames
import Phrasebook.Proofs.ParameterNames
import Phrasebook.Proofs.AcceptedTemplates
import Phrasebook.Proofs.BinaryRange
import Phrasebook.Proofs.Overflows
import Phrasebook.Proofs.Predictions
import Phrasebook.Proofs.LogicalLines
import Phrasebook.Proofs.WholeEscapes
import Phrasebook.Proofs.DocumentationTexts
import Phrasebook.Proofs.TargetEntries

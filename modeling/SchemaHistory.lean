import SchemaHistory.Generate
import SchemaHistory.Json.Parser
import SchemaHistory.Json.Printer
import SchemaHistory.Proofs.ArtifactNames
import SchemaHistory.Proofs.AuthoringOrder
import SchemaHistory.Proofs.BlockText
import SchemaHistory.Proofs.CanonicalVersions
import SchemaHistory.Proofs.CatalogRoundtrip
import SchemaHistory.Proofs.Checkpoints
import SchemaHistory.Proofs.DocumentText
import SchemaHistory.Proofs.FaithfulText
import SchemaHistory.Proofs.Generation
import SchemaHistory.Proofs.Growth
import SchemaHistory.Proofs.MessagesByPlace
import SchemaHistory.Proofs.ReferenceStorage
import SchemaHistory.Proofs.ResolvedShapes
import SchemaHistory.Proofs.Respelling
import SchemaHistory.Proofs.SinkAgreement
import SchemaHistory.Proofs.Stability
import SchemaHistory.Proofs.StoreNames
import SchemaHistory.Proofs.UnusedProperties
import SchemaHistory.Proofs.ValidationReport
import SchemaHistory.Proofs.VersionGrammar
import SchemaHistory.Proofs.NormalForm
import SchemaHistory.Proofs.ReportLines

import GoSurvey.Annotation
import GoSurvey.Config
import GoSurvey.Exclude
import GoSurvey.Extract
import GoSurvey.FileTree
import GoSurvey.ImportAliases
import GoSurvey.Load
import GoSurvey.Model.Json
import GoSurvey.Path
import GoSurvey.Proofs.AddedPointers
import GoSurvey.Proofs.CommentStyles
import GoSurvey.Proofs.ConfigMembers
import GoSurvey.Proofs.DiagnosticOwners
import GoSurvey.Proofs.DocBlocks
import GoSurvey.Proofs.DocumentedDeclarations
import GoSurvey.Proofs.ImportLines
import GoSurvey.Proofs.LiteralPieces
import GoSurvey.Proofs.LoadedPackages
import GoSurvey.Proofs.LooserConfigs
import GoSurvey.Proofs.ModelKeys
import GoSurvey.Proofs.ModelRoundTrip
import GoSurvey.Proofs.ModuleImportPaths
import GoSurvey.Proofs.NameSearch
import GoSurvey.Proofs.PackageMethods
import GoSurvey.Proofs.PointerFields
import GoSurvey.Proofs.RecursivePatterns
import GoSurvey.Proofs.ReportedPositions
import GoSurvey.Proofs.SignatureEntries
import GoSurvey.Proofs.TagEntries
import GoSurvey.Scan
import GoSurvey.Tag.Literal
import GoSurvey.TypeShape

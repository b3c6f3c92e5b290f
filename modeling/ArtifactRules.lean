import ArtifactRules.Main
import ArtifactRules.Proofs.Readings
import ArtifactRules.Proofs.Texts
import ArtifactRules.Proofs.CellDecision
import ArtifactRules.Proofs.CellLanguage
import ArtifactRules.Proofs.FaultPlace
import ArtifactRules.Proofs.RuleWriting
import ArtifactRules.Proofs.LoadedRules
import ArtifactRules.Proofs.WrittenDocuments
import ArtifactRules.Proofs.RowLayout
import ArtifactRules.Proofs.SheetSources
import ArtifactRules.Proofs.Places
import ArtifactRules.Proofs.SettingsStore
import ArtifactRules.Proofs.ClassifyRun
import ArtifactRules.Proofs.HeuristicSteps
import ArtifactRules.Proofs.WrittenArtifacts
import ArtifactRules.Proofs.ChangedFiles
import ArtifactRules.Proofs.CellReadings
import ArtifactRules.Proofs.RowEdits
import ArtifactRules.Proofs.Relevance
import ArtifactRules.Proofs.RuleOrder
import ArtifactRules.Proofs.RuleTexts
import ArtifactRules.Proofs.RecordChecks
import ArtifactRules.Proofs.HeaderRows
import ArtifactRules.Proofs.TabbedRows
import ArtifactRules.Proofs.FittingArtifacts
import ArtifactRules.Proofs.RecordSpellings
import ArtifactRules.Proofs.ArtifactSpellings
import ArtifactRules.Proofs.SheetSelection
import ArtifactRules.Proofs.WrittenTemplates
import ArtifactRules.Proofs.ShownSettings
import ArtifactRules.Proofs.JudgedReports
import ArtifactRules.Proofs.LongerTexts
import ArtifactRules.Proofs.CutDocuments
import ArtifactRules.Proofs.StyleCodes
import ArtifactRules.Proofs.VerboseOption
import ArtifactRules.Proofs.Presentation

import SourceTidy.Main
import SourceTidy.Proofs.BackupModes
import SourceTidy.Proofs.ConfiguredPatterns
import SourceTidy.Proofs.CurrentYears
import SourceTidy.Proofs.EolOption
import SourceTidy.Proofs.FailFastPaths
import SourceTidy.Proofs.FailedScans
import SourceTidy.Proofs.GlobTexts
import SourceTidy.Proofs.JoinedPatterns
import SourceTidy.Proofs.KeptCode
import SourceTidy.Proofs.LineNumbers
import SourceTidy.Proofs.LinkedWalk
import SourceTidy.Proofs.LogLevels
import SourceTidy.Proofs.RepeatedBackups
import SourceTidy.Proofs.SingleFiles
import SourceTidy.Proofs.StoredSettings
import SourceTidy.Proofs.TrimmedLines
import SourceTidy.Proofs.UpdatedLines
import SourceTidy.Proofs.UsedUpdaters

import Preflight.Main
import Preflight.FileSystem.Basic
import Preflight.FileSystem.Edit
import Preflight.Proofs.Check.Account
import Preflight.Proofs.Check.Confinement
import Preflight.Proofs.Check.Dependencies
import Preflight.Proofs.Check.Exemption
import Preflight.Proofs.Check.Statistics
import Preflight.Proofs.Import.Seam
import Preflight.Proofs.Layout.File
import Preflight.Proofs.Layout.Loading
import Preflight.Proofs.Layout.RoundTrip
import Preflight.Proofs.Layout.Ruling
import Preflight.Proofs.Program.Colour
import Preflight.Proofs.Program.ErrorText
import Preflight.Proofs.Program.ExitCode
import Preflight.Proofs.Program.Root
import Preflight.Proofs.Report.Ending
import Preflight.Proofs.Report.Outline

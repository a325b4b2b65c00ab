import Reprint.Main
import Reprint.Native.Record
import Reprint.Proofs.Reprinting
import Reprint.Proofs.TreeLayout
import Reprint.Proofs.Balance
import Reprint.Proofs.Integers
import Reprint.Proofs.RoundTrip
import Reprint.Proofs.FileSystem
import Reprint.Proofs.Arguments
import Reprint.Proofs.InPlace
import Reprint.Proofs.ByteOrder
import Reprint.Proofs.FiniteMap
import Reprint.Proofs.Positions
import Reprint.Proofs.EditRuns
import Reprint.Proofs.OneLine
import Reprint.Proofs.Documents
import Reprint.Proofs.Compact
import Reprint.Proofs.Escapes
import Reprint.Proofs.Failures
import Reprint.Proofs.Undo
import Reprint.Proofs.Conversion
import Reprint.Proofs.IntegerTexts
import Reprint.Proofs.NativeText
import Reprint.Proofs.Sources
import Reprint.Proofs.LineEndings

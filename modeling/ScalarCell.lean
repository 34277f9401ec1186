import ScalarCell.Customer
import ScalarCell.Error
import ScalarCell.Registry
import ScalarCell.Slot
import ScalarCell.Proofs.Json.ExactRoundTrip
import ScalarCell.Proofs.Json.FloatRoundTrip
import ScalarCell.Proofs.Json.TimestampReaders
import ScalarCell.Proofs.PatternList.Attempts
import ScalarCell.Proofs.PatternList.OwnText
import ScalarCell.Proofs.Registry
import ScalarCell.Proofs.Cell.Scan
import ScalarCell.Proofs.Slot.Overwriting
import ScalarCell.Proofs.Cell.Token
import ScalarCell.Proofs.Cell.NumberText
import ScalarCell.Proofs.Json.Document
import ScalarCell.Proofs.Json.IntegerLiteral
import ScalarCell.Proofs.Slot.HiddenValue
import ScalarCell.Proofs.Pattern.RelaxedHours
import ScalarCell.Proofs.PatternList.Order
import ScalarCell.Proofs.PatternList.DefaultOffset
import ScalarCell.Proofs.Cell.WholeNumber
import ScalarCell.Proofs.Cell.Bytes
import ScalarCell.Proofs.Json.ThroughValue
import ScalarCell.Proofs.Customer

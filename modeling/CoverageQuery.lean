import CoverageQuery.Calendar
import CoverageQuery.Delivery
import CoverageQuery.Main
import CoverageQuery.Proofs.Query.Alike
import CoverageQuery.Proofs.Request.Reading
import CoverageQuery.Proofs.Session.Failure
import CoverageQuery.Proofs.Session.Finite
import CoverageQuery.Proofs.Session.LastWrite
import CoverageQuery.Proofs.Session.Start
import CoverageQuery.Proofs.Exchange.Orders
import CoverageQuery.Proofs.Request.Parameters
import CoverageQuery.Proofs.Config.Precedence
import CoverageQuery.Proofs.ExceptionReport.Extraction
import CoverageQuery.Proofs.Query.Gate
import CoverageQuery.Proofs.Query.Tuples
import CoverageQuery.Proofs.Request.Checks
import CoverageQuery.Proofs.ExceptionReport.SelfClosed
import CoverageQuery.Proofs.Axis.LongestNumeral
import CoverageQuery.Proofs.Failure.Envelope
import CoverageQuery.Proofs.DateLabel.Parsing
import CoverageQuery.Proofs.Cli.Query

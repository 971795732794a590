import Roster.Main
import Roster.Proofs.Columns
import Roster.Proofs.ElementShape
import Roster.Proofs.Respacing
import Roster.Proofs.TokenPositions
import Roster.Proofs.JsonText
import Roster.Proofs.Records
import Roster.Proofs.WordContext
import Roster.Proofs.SourceJoining
import Roster.Proofs.SessionSource
import Roster.Proofs.SessionAnswer
import Roster.Proofs.SessionLines
import Roster.Proofs.TokenRelabelling
import Roster.Proofs.LineEndings
import Roster.Proofs.SessionDivision
import Roster.Proofs.ListExtent
import Roster.Proofs.RunEnding
import Roster.Proofs.CheckAgreement
import Roster.Proofs.ListFaults
import Roster.Proofs.FailingStatement
import Roster.Proofs.StatementEnding
import Roster.Proofs.MessageLines
import Roster.Proofs.ParseDiagnostics
import Roster.Proofs.LexDiagnostics
import Roster.Proofs.SegmentLayout
import Roster.Proofs.Alphabet
import Roster.Proofs.Completeness
import Roster.Proofs.WhitespaceLayout
import Roster.Proofs.Confirmations
import Roster.Proofs.Updates
import Roster.Proofs.SettingsConditions
import Roster.Proofs.StatementSlices

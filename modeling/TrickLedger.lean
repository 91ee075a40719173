import TrickLedger.Main
import TrickLedger.Play.Grammar
import TrickLedger.Play.WellFormed
import TrickLedger.Play.Writer
import TrickLedger.Proofs.Balance.Discrepancy
import TrickLedger.Proofs.Balance.Rearrangement
import TrickLedger.Proofs.Balance.Season
import TrickLedger.Proofs.Balance.Stake
import TrickLedger.Proofs.Calendar.Filling
import TrickLedger.Proofs.Command.Balance
import TrickLedger.Proofs.Command.Search
import TrickLedger.Proofs.Layout.Comments
import TrickLedger.Proofs.Layout.Gathering
import TrickLedger.Proofs.Layout.Sheet
import TrickLedger.Proofs.Money
import TrickLedger.Proofs.Play.Commented
import TrickLedger.Proofs.Play.Refusal
import TrickLedger.Proofs.Play.Respelling
import TrickLedger.Proofs.Play.RoundTrip
import TrickLedger.Proofs.Scanning.Pending
import TrickLedger.Proofs.Scanning.Text
import TrickLedger.Proofs.Scoring.Rescoring
import TrickLedger.Proofs.Scoring.Words
import TrickLedger.Proofs.Sheet.Overriding
import TrickLedger.Proofs.Sheet.Pointing
import TrickLedger.Proofs.Sheet.Saving
import TrickLedger.Proofs.Text.Encoding
import TrickLedger.Scoring.Exact
import TrickLedger.Sheet.Editing

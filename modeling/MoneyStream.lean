import MoneyStream.Client
import MoneyStream.Fee
import MoneyStream.InPlace
import MoneyStream.Operation
import MoneyStream.Record.Treasury
import MoneyStream.Bytes.Hex
import MoneyStream.Ledger.Event
import MoneyStream.Ledger.Processor
import MoneyStream.Proofs.Bookkeeping
import MoneyStream.Proofs.Proposals
import MoneyStream.Proofs.InPlace
import MoneyStream.Proofs.Ledger
import MoneyStream.Proofs.Handlers
import MoneyStream.Proofs.Instructions
import MoneyStream.Proofs.Authorization
import MoneyStream.Proofs.Encoding
import MoneyStream.Proofs.Payloads
import MoneyStream.Proofs.Builders
import MoneyStream.Proofs.Escrow
import MoneyStream.Proofs.Depletion
import MoneyStream.Proofs.DepletionGap
import MoneyStream.Proofs.PausedWindow
import MoneyStream.Proofs.Widths
import MoneyStream.Proofs.CliffFreeze
import MoneyStream.Proofs.Growth
import MoneyStream.Proofs.MemoText
import MoneyStream.Proofs.Resubmission

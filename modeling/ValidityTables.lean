import ValidityTables.CommandLine
import ValidityTables.Main
import ValidityTables.Services.Script
import ValidityTables.Proofs.AllOrNothing
import ValidityTables.Proofs.LostConnections
import ValidityTables.Proofs.Operations
import ValidityTables.Proofs.Retries
import ValidityTables.Proofs.BlockLifecycle
import ValidityTables.Proofs.Rehearsal
import ValidityTables.Proofs.FileGrammar
import ValidityTables.Proofs.FileVerdict
import ValidityTables.Proofs.Interruption
import ValidityTables.Proofs.Concatenation
import ValidityTables.Proofs.Columns
import ValidityTables.Proofs.Exchange
import ValidityTables.Proofs.Authority
import ValidityTables.Proofs.DropTable
import ValidityTables.Proofs.CompressedFiles
import ValidityTables.Proofs.Attempts
import ValidityTables.Proofs.Confirmation
import ValidityTables.Proofs.HeaderFields
import ValidityTables.Proofs.HeaderOptions
import ValidityTables.Proofs.HeaderRoundTrip
import ValidityTables.Proofs.SqlValues
import ValidityTables.Proofs.Timestamps
import ValidityTables.Proofs.RawStatements
import ValidityTables.Proofs.UnsignedFields
import ValidityTables.Proofs.UnsignedValues
import ValidityTables.Proofs.FirstEntry
import ValidityTables.Proofs.LineEnds
import ValidityTables.Proofs.FileLayout
import ValidityTables.Proofs.Addresses
import ValidityTables.Proofs.Passwords
import ValidityTables.Proofs.AllocatorAnswers
import ValidityTables.Proofs.ValidityRows

import TablePackage.Main
import TablePackage.Session
import TablePackage.Proofs.Accounts
import TablePackage.Proofs.CommandLine.Preview
import TablePackage.Proofs.CommandLine.Summary
import TablePackage.Proofs.Declaration.Spans
import TablePackage.Proofs.Selection
import TablePackage.Proofs.Skeleton
import TablePackage.Proofs.Routine.Location
import TablePackage.Proofs.Sql.Shadowing
import TablePackage.Proofs.Declaration.Composition
import TablePackage.Proofs.Lines.Repetition
import TablePackage.Proofs.Routine.LetterCase
import TablePackage.Proofs.Routine.Entries
import TablePackage.Proofs.Fragments
import TablePackage.Proofs.Writing
import TablePackage.Proofs.Declaration.Interleaving
import TablePackage.Proofs.Lines.Range
import TablePackage.Proofs.Config.Sections

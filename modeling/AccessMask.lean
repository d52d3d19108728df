import AccessMask.Main
import AccessMask.Declaration.Reading
import AccessMask.FlagSet.Run
import AccessMask.Inspection.Collection
import AccessMask.Proofs.ExpressionGrammar
import AccessMask.Proofs.DescriptionReading
import AccessMask.Proofs.CanonicalDescription
import AccessMask.Proofs.Concatenation
import AccessMask.Proofs.OtherVocabulary
import AccessMask.Proofs.CommandLineGrammar
import AccessMask.Proofs.CommandLineReading
import AccessMask.Proofs.OutputReading
import AccessMask.Proofs.PrintedCharacters
import AccessMask.Proofs.ReportReading
import AccessMask.Proofs.OutcomeLaws
import AccessMask.Proofs.FilterLaws
import AccessMask.Proofs.JournalReplay
import AccessMask.Proofs.QuotedReading
import AccessMask.Proofs.Messages
import AccessMask.Proofs.RunLaws
import AccessMask.Proofs.TermSets
import AccessMask.Proofs.PredicateSources
import AccessMask.Proofs.FlagParts
import AccessMask.Proofs.CollectionLaws
import AccessMask.Proofs.PredicateBits
import AccessMask.Proofs.QuotedValues
import AccessMask.Proofs.NumeralForms

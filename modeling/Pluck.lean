import Pluck.Main
import Pluck.Settings.Json
import Pluck.Proofs.Entries
import Pluck.Proofs.Walks
import Pluck.Proofs.Projection
import Pluck.Proofs.Reading
import Pluck.Proofs.RoundTrip
import Pluck.Proofs.Grammar
import Pluck.Proofs.FirstFault
import Pluck.Proofs.Overwriting
import Pluck.Proofs.Lookups
import Pluck.Proofs.Footprint
import Pluck.Proofs.Integers
import Pluck.Proofs.Provenance
import Pluck.Proofs.Absence
import Pluck.Proofs.CommandLine
import Pluck.Proofs.Runs
import Pluck.Proofs.Reordering
import Pluck.Proofs.Numerals
import Pluck.Proofs.NumberTexts
import Pluck.Proofs.Quotation
import Pluck.Proofs.TextRoundTrip
import Pluck.Proofs.WholeFloats
import Pluck.Proofs.Indexing
import Pluck.Proofs.Growth
import Pluck.Proofs.Spelling
import Pluck.Proofs.ErrorChains
import Pluck.Proofs.TextReaders
import Pluck.Proofs.SettingsText
import Pluck.Proofs.Acceptance
import Pluck.Proofs.Omissions
import Pluck.Proofs.Nesting
import Pluck.Proofs.Scalars
import Pluck.Proofs.IntegerParts
import Pluck.Proofs.Words
import Pluck.Proofs.LoggedEvents
import Pluck.Proofs.DecimalKeys
import Pluck.Proofs.Levels

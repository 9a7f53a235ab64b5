import Gherkin.Main
import Gherkin.Language.Record
import Gherkin.Proofs.Grammar.Completeness
import Gherkin.Proofs.Document.Projection
import Gherkin.Proofs.Reading.Account
import Gherkin.Proofs.Reading.Arguments
import Gherkin.Proofs.Reading.CarriageReturns
import Gherkin.Proofs.Reading.Independence
import Gherkin.Proofs.Reading.Locations
import Gherkin.Proofs.Reading.Opacity
import Gherkin.Proofs.Reading.Pieces
import Gherkin.Proofs.Reading.Transparency
import Gherkin.Proofs.Reading.UnevenRows
import Gherkin.Proofs.Reading.WellFormed
import Gherkin.Proofs.Writing.DocStrings
import Gherkin.Proofs.Writing.Idempotence
import Gherkin.Proofs.Writing.Languages
import Gherkin.Proofs.Writing.Tables
import Gherkin.Proofs.DocString.Indentation
import Gherkin.Proofs.Language.Table
import Gherkin.Proofs.Table.Alignment
import Gherkin.Proofs.Json.Layouts

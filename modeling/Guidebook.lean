import Guidebook.Main
import Guidebook.Section.Specimen
import Guidebook.Proofs.Outline.Lines
import Guidebook.Proofs.Plan.Decompilation
import Guidebook.Proofs.Plan.Domain
import Guidebook.Proofs.Plan.FirstViolation
import Guidebook.Proofs.Plan.Limit
import Guidebook.Proofs.Plan.Members
import Guidebook.Proofs.Plan.Outline
import Guidebook.Proofs.Json.Lexeme
import Guidebook.Proofs.Json.Reading
import Guidebook.Proofs.Document.Json
import Guidebook.Proofs.Plan.Value
import Guidebook.Proofs.Plan.Json
import Guidebook.Proofs.Section.Census
import Guidebook.Proofs.Plan.Tally
import Guidebook.Proofs.Document.Load
import Guidebook.Proofs.CommandLine.Documents
import Guidebook.Proofs.Document.Survey
import Guidebook.Proofs.Toml.Lexeme
import Guidebook.Proofs.Toml.Number
import Guidebook.Proofs.Toml.Reading
import Guidebook.Proofs.Toml.Table
import Guidebook.Proofs.Settings.Layers
import Guidebook.Proofs.Settings.Toml
import Guidebook.Proofs.Settings.Overrides
import Guidebook.Proofs.Settings.Names
import Guidebook.Proofs.Section.Grammar
import Guidebook.Proofs.Section.Renaming
import Guidebook.Proofs.Section.Spelling
import Guidebook.Proofs.Section.Outline
import Guidebook.Proofs.Plan.Enclosure
import Guidebook.Proofs.Plan.CommandTexts
import Guidebook.Proofs.Plan.Spelling
import Guidebook.Proofs.Document.Hidden
import Guidebook.Proofs.CommandLine.Surveys
import Guidebook.Proofs.CommandLine.Alone
import Guidebook.Proofs.Settings.Overlays
import Guidebook.Proofs.Document.Bare
import Guidebook.Proofs.Document.Toml
import Guidebook.Proofs.Section.Preorder
import Guidebook.Proofs.Settings.Expansion
import Guidebook.Proofs.Document.Formats
import Guidebook.Proofs.CommandLine.Creation

import Phrasebook.Main
import Phrasebook.Proofs.Command.Dump
import Phrasebook.Proofs.Command.Transcript
import Phrasebook.Proofs.Export
import Phrasebook.Proofs.LanguageMap.Positional
import Phrasebook.Proofs.Store.Domains
import Phrasebook.Proofs.Store.Strict
import Phrasebook.Proofs.FileSubstitution.Encoding
import Phrasebook.Proofs.FileSubstitution.Stages
import Phrasebook.Proofs.FileSubstitution.InMemory
import Phrasebook.Proofs.Substitution.Residue
import Phrasebook.Proofs.Substitution.Order
import Phrasebook.Proofs.Command.Transparency
import Phrasebook.Proofs.LanguageMap.Repair
import Phrasebook.Proofs.Text.LineEnding
import Phrasebook.Proofs.LanguageMap.Concatenation
import Phrasebook.Proofs.Files.Refusal
import Phrasebook.Proofs.Table.Agreement
import Phrasebook.Proofs.Files.MapSources
import Phrasebook.Proofs.FileSubstitution.LineFeeds
import Phrasebook.Proofs.LanguageMap.Capacity
import Phrasebook.Proofs.FileSubstitution.Counts
import Phrasebook.Proofs.Locale
import Phrasebook.Proofs.Store.Lookup

import SentenceSampler.Chooser.Any
import SentenceSampler.File.Disk
import SentenceSampler.Main
import SentenceSampler.Proofs.Grammar.RoundTrip
import SentenceSampler.Proofs.Command.Export
import SentenceSampler.Proofs.Grammar.Classes
import SentenceSampler.Proofs.Generator.Resumption
import SentenceSampler.Proofs.Generator.Boundedness
import SentenceSampler.Proofs.Generator.Productivity
import SentenceSampler.Proofs.Generator.Session
import SentenceSampler.Proofs.Generator.Completion
import SentenceSampler.Proofs.Generator.Failing
import SentenceSampler.Proofs.Grammar.LinePattern
import SentenceSampler.Proofs.Grammar.Reading
import SentenceSampler.Proofs.Generator.Account
import SentenceSampler.Proofs.Generator.Resemblance
import SentenceSampler.Proofs.Chooser.Unbiased
import SentenceSampler.Proofs.Grammar.Layout
import SentenceSampler.Proofs.Command.Lines
import SentenceSampler.Proofs.Command.Presentation
import SentenceSampler.Proofs.Tree.Order
import SentenceSampler.Proofs.Generator.Pending
import SentenceSampler.Proofs.Sentence
import SentenceSampler.Proofs.Tree.Printed
import SentenceSampler.Proofs.Tree.Locality
import SentenceSampler.Proofs.Grammar.SymbolPattern
import SentenceSampler.Proofs.Chooser.Turns

import MaskedInput.Session.Run
import MaskedInput.Cache
import MaskedInput.Pattern.Grammar
import MaskedInput.Main
import MaskedInput.Text.Alphabetic
import MaskedInput.Proofs.Layout.Completeness
import MaskedInput.Proofs.Format
import MaskedInput.Proofs.Session.Range
import MaskedInput.Proofs.Layout.Continuation
import MaskedInput.Proofs.Session.Typing
import MaskedInput.Proofs.Edit.Locality
import MaskedInput.Proofs.Edit.Buffer
import MaskedInput.Proofs.Pattern.Reading
import MaskedInput.Proofs.Pattern.Error
import MaskedInput.Proofs.Pattern.Grammar
import MaskedInput.Proofs.Edit.Whole
import MaskedInput.Proofs.Session.Clearing
import MaskedInput.Proofs.Session.Backspacing
import MaskedInput.Proofs.Session.Origin
import MaskedInput.Proofs.Session.Active
import MaskedInput.Proofs.Session.Undo
import MaskedInput.Proofs.Session.OwnText
import MaskedInput.Proofs.Session.Decoration
import MaskedInput.Proofs.CommandLine.Failure
import MaskedInput.Proofs.Cache
import MaskedInput.Proofs.Affinity.Reading
import MaskedInput.Proofs.Layout.Full
import MaskedInput.Proofs.Session.Switch
import MaskedInput.Proofs.CommandLine.Agreement
import MaskedInput.Proofs.Pattern.Extension
import MaskedInput.Proofs.Pattern.Concatenation
import MaskedInput.Proofs.CommandLine.Check
import MaskedInput.Proofs.Session.Alone
import MaskedInput.Proofs.Bounds.Session

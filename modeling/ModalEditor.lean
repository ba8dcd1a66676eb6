import ModalEditor.Host.Memory
import ModalEditor.Capacity
import ModalEditor.Main
import ModalEditor.Proofs.Buffer.Breaks
import ModalEditor.Proofs.Buffer.Evolution
import ModalEditor.Proofs.Edit.Evolution
import ModalEditor.Proofs.Normal.Evolution
import ModalEditor.Proofs.Address.Bounds
import ModalEditor.Proofs.Editor.Table
import ModalEditor.Proofs.Editor.Evolution
import ModalEditor.Proofs.Ex.Prefix
import ModalEditor.Proofs.Ex.Typed
import ModalEditor.Proofs.Path.Characters
import ModalEditor.Proofs.Ex.Evolution
import ModalEditor.Proofs.Ex.Files
import ModalEditor.Proofs.Ex.Settling
import ModalEditor.Proofs.Session.Evolution
import ModalEditor.Proofs.Session.Valid
import ModalEditor.Proofs.Session.Ledger
import ModalEditor.Proofs.Buffer.RoundTrip
import ModalEditor.Proofs.Session.Reload
import ModalEditor.Proofs.Normal.Count
import ModalEditor.Proofs.Normal.Kind
import ModalEditor.Proofs.Normal.Completion
import ModalEditor.Proofs.Session.Pending
import ModalEditor.Proofs.Editor.Quiet
import ModalEditor.Proofs.Ex.Asking
import ModalEditor.Proofs.Session.Asking
import ModalEditor.Proofs.Session.OnePerPath
import ModalEditor.Proofs.Path.Folding
import ModalEditor.Proofs.Path.Containment
import ModalEditor.Proofs.Session.Confinement
import ModalEditor.Proofs.Edit.Failure
import ModalEditor.Proofs.Ex.Failure
import ModalEditor.Proofs.Ex.FailedWrite
import ModalEditor.Proofs.Word.Flat
import ModalEditor.Proofs.Word.Motion
import ModalEditor.Proofs.Word.Stops
import ModalEditor.Proofs.Word.Next
import ModalEditor.Proofs.Word.OnLine
import ModalEditor.Proofs.Normal.Column
import ModalEditor.Proofs.Ex.Column
import ModalEditor.Proofs.Normal.Typed
import ModalEditor.Proofs.Session.Column
import ModalEditor.Proofs.Register.Basic
import ModalEditor.Proofs.Register.History
import ModalEditor.Proofs.Session.Modes
import ModalEditor.Proofs.Editor.Frame
import ModalEditor.Proofs.Ex.Frame
import ModalEditor.Proofs.Session.Frame
import ModalEditor.Proofs.Edit.Removal
import ModalEditor.Proofs.Ex.Global
import ModalEditor.Proofs.Ex.GlobalDelete
import ModalEditor.Proofs.Buffer.Marks
import ModalEditor.Proofs.Bounded.Basic
import ModalEditor.Proofs.Bounded.Buffer
import ModalEditor.Proofs.Bounded.Insert
import ModalEditor.Proofs.Bounded.Register
import ModalEditor.Proofs.Bounded.Edit
import ModalEditor.Proofs.Bounded.Word
import ModalEditor.Proofs.Bounded.Address
import ModalEditor.Proofs.Bounded.Keys
import ModalEditor.Proofs.Bounded.Reading
import ModalEditor.Proofs.Bounded.Normal
import ModalEditor.Proofs.Bounded.Substitute
import ModalEditor.Proofs.Bounded.Editor
import ModalEditor.Proofs.Bounded.Ex
import ModalEditor.Proofs.Bounded.Session
import ModalEditor.Proofs.Pattern.Matches
import ModalEditor.Proofs.Edit.Substitution
import ModalEditor.Proofs.Edit.Marks
import ModalEditor.Proofs.Ex.Marks
import ModalEditor.Proofs.Ex.GlobalSubstitute
import ModalEditor.Proofs.Edit.Visit
import ModalEditor.Proofs.Normal.Deletion
import ModalEditor.Proofs.Ex.GlobalNormal
import ModalEditor.Proofs.Edit.PutBack
import ModalEditor.Proofs.Edit.PlainText
import ModalEditor.Proofs.Session.Typing
import ModalEditor.Proofs.Edit.Replacement
import ModalEditor.Proofs.Text.CharSet
import ModalEditor.Proofs.Text.Escaping
import ModalEditor.Proofs.Ex.Delimited
import ModalEditor.Proofs.Text.Numeral
import ModalEditor.Proofs.Address.Written
import ModalEditor.Proofs.Address.Search
import ModalEditor.Proofs.Address.Resolution
import ModalEditor.Proofs.Normal.LargeCounts
import ModalEditor.Proofs.Ex.Nesting
import ModalEditor.Proofs.Session.InlineInsert
import ModalEditor.Proofs.Ex.Named
import ModalEditor.Proofs.Ex.LineAgreement
import ModalEditor.Proofs.Ex.Settings
import ModalEditor.Proofs.Ex.LastSubstitution
import ModalEditor.Proofs.Ex.Repeat
import ModalEditor.Proofs.Session.CommandLine
import ModalEditor.Proofs.Session.Settings
import ModalEditor.Proofs.Session.Repeat
import ModalEditor.Proofs.Normal.Spans
import ModalEditor.Proofs.Key.Notation
import ModalEditor.Proofs.Path.Canonical
import ModalEditor.Proofs.Ex.Filter
import ModalEditor.Proofs.Edit.Copies
import ModalEditor.Proofs.Ex.Refusal
import ModalEditor.Proofs.Session.Capacity

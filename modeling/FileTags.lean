import FileTags.Main
import FileTags.Proofs.Term.Assembly
import FileTags.Proofs.Term.Cover
import FileTags.Proofs.Filter.Evaluation
import FileTags.Proofs.Filter.Fold
import FileTags.Proofs.Filter.Meaning
import FileTags.Proofs.Term.Layout
import FileTags.Proofs.Term.Operand
import FileTags.Proofs.Term.Phrase
import FileTags.Proofs.Term.Rendering
import FileTags.Proofs.Filter.Canonical
import FileTags.Proofs.TagMap.Reading
import FileTags.Proofs.TagMap.RoundTrip
import FileTags.Proofs.Filter.Reference
import FileTags.Proofs.Filter.Expansion
import FileTags.Proofs.Session
import FileTags.Proofs.TagMap.Update
import FileTags.Proofs.Text.Utf8
import FileTags.Proofs.Settings.Loading
import FileTags.Proofs.TagMap.Store
import FileTags.Proofs.Command.Edit
import FileTags.Proofs.Command.Words
import FileTags.Proofs.Command.Files
import FileTags.Proofs.Command.Tagging
import FileTags.Proofs.Volume.Growth
import FileTags.Proofs.Volume.Link
import FileTags.Proofs.Bookmark.Saving
import FileTags.Proofs.Filter.Unfolding
import FileTags.Proofs.Volume.Path
import FileTags.Proofs.Bookmark.History
import FileTags.Proofs.Command.Renaming
import FileTags.Proofs.Filter.FixedPoint
import FileTags.Proofs.Walk.Pool
import FileTags.Proofs.Walk.Ending
import FileTags.Proofs.Filter.Failure
import FileTags.Proofs.Filter.Rounds
import FileTags.Proofs.Command.FileByFile
import FileTags.Proofs.Term.Pairing
import FileTags.Proofs.TagMap.Template
import FileTags.Proofs.TagMap.Relabelling
import FileTags.Proofs.Pattern.Anchoring
import FileTags.Proofs.Pattern.Refusal
import FileTags.Proofs.Walk.Visible
import FileTags.Proofs.Volume.Ancestors
import FileTags.Proofs.Bookmark.Storing
import FileTags.Proofs.Filter.Cycles
import FileTags.Proofs.Bookmark.Reading
import FileTags.Proofs.Term.Units
import FileTags.Proofs.Term.GroupSearch
import FileTags.Proofs.SyntaxError
import FileTags.Proofs.Settings.Normal
import FileTags.Proofs.Settings.Failure

import FormBuilder.Command.Listing
import FormBuilder.Main
import FormBuilder.Proofs.Drag.Gesture
import FormBuilder.Proofs.Field.Document
import FormBuilder.Proofs.Formula.Currency
import FormBuilder.Proofs.Formula.Reparse
import FormBuilder.Proofs.Formula.Viable
import FormBuilder.Proofs.Run
import FormBuilder.Proofs.Session.Distinct
import FormBuilder.Proofs.Session.InPlace
import FormBuilder.Proofs.Session.Selection
import FormBuilder.Proofs.State.Namesakes
import FormBuilder.Proofs.Tree.Duplicates
import FormBuilder.Proofs.Tree.Inverse
import FormBuilder.Proofs.Tree.Merge
import FormBuilder.Proofs.Tree.Resolve
import FormBuilder.Proofs.Validation
import FormBuilder.Proofs.Value.Display
import FormBuilder.Proofs.Workspace.Isolation
import FormBuilder.Proofs.Workspace.Keyed
import FormBuilder.Proofs.Workspace.Persistence
import FormBuilder.Proofs.Workspace.Reopen
import FormBuilder.Run.Json
import FormBuilder.Session
import FormBuilder.State.Json

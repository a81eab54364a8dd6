import LabEditor.Main
import LabEditor.Markdown.Html
import LabEditor.Service.Api
import LabEditor.Proofs.Workspace.RoundTrip
import LabEditor.Proofs.Scan
import LabEditor.Proofs.Store.Tree
import LabEditor.Proofs.Token
import LabEditor.Proofs.Markup.Block
import LabEditor.Proofs.Text.Entity
import LabEditor.Proofs.Preview.Rows
import LabEditor.Proofs.Preview.Fence
import LabEditor.Proofs.Preview.Styled
import LabEditor.Proofs.Preview.RoundTrip
import LabEditor.Proofs.Text.LineEnd
import LabEditor.Proofs.Detection.Span
import LabEditor.Proofs.Detection.Fence
import LabEditor.Proofs.Detection.Vault
import LabEditor.Proofs.Detection.Rule
import LabEditor.Proofs.Detection.Pass
import LabEditor.Proofs.Detection.Snippet
import LabEditor.Proofs.Detection.Guess
import LabEditor.Proofs.Detection.Parts
import LabEditor.Proofs.Detection.Idempotent
import LabEditor.Proofs.Detection.Protect
import LabEditor.Proofs.Detection.LineEnd
import LabEditor.Proofs.Detection.Sniff
import LabEditor.Proofs.Conversion
import LabEditor.Proofs.Service.Deployment
import LabEditor.Proofs.Service.Contents
import LabEditor.Proofs.Tree.Nodes
import LabEditor.Proofs.Tree.Shape
import LabEditor.Proofs.Tree.Growth
import LabEditor.Proofs.Detection.Blocks
import LabEditor.Proofs.Workspace.Tree
import LabEditor.Proofs.Workspace.Relabelling
import LabEditor.Proofs.Workspace.RenameBack
import LabEditor.Proofs.Workspace.OpenFolders
import LabEditor.Proofs.Decimal.Rounding
import LabEditor.Proofs.Decimal.Shortest
import LabEditor.Proofs.Text.Digit
import LabEditor.Proofs.Json.Number
import LabEditor.Proofs.Json.Text
import LabEditor.Proofs.Json.RoundTrip
import LabEditor.Proofs.Store.Contents
import LabEditor.Proofs.Along
import LabEditor.Proofs.Path.Normal
import LabEditor.Proofs.Store.Normal
import LabEditor.Proofs.Workspace.Saving
import LabEditor.Proofs.Workspace.History
import LabEditor.Proofs.Json.Ascii
import LabEditor.Proofs.Export.Directory
import LabEditor.Proofs.Export.Entry
import LabEditor.Proofs.Export.Lab
import LabEditor.Proofs.Workspace.Export
import LabEditor.Proofs.Markup.Group
import LabEditor.Proofs.Markup.Address
import LabEditor.Proofs.Markup.Link
import LabEditor.Proofs.Deployment.Sent
import LabEditor.Proofs.Deployment.Folder
import LabEditor.Proofs.Store.Collision
import LabEditor.Proofs.Workspace.Deletion
import LabEditor.Proofs.Workspace.Toggling
import LabEditor.Proofs.Preview.Total
import LabEditor.Proofs.Preview.Verbatim
import LabEditor.Proofs.Preview.Reached
import LabEditor.Proofs.Lab.Addition
import LabEditor.Proofs.Path.Clean
import LabEditor.Proofs.Path.Subtree
import LabEditor.Proofs.Markup.Dispatch
import LabEditor.Proofs.Workspace.Opening
import LabEditor.Proofs.Service.Config

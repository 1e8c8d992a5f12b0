import TypedClient.Main
import TypedClient.World
import TypedClient.Proofs.Cache.Damaged
import TypedClient.Proofs.Cache.Interrupted
import TypedClient.Proofs.Command.HandEdited
import TypedClient.Proofs.Command.Plan
import TypedClient.Proofs.Files.Isolation
import TypedClient.Proofs.Files.Success
import TypedClient.Proofs.Naming.CamelCase
import TypedClient.Proofs.Naming.TypeName
import TypedClient.Proofs.Operation.Difference
import TypedClient.Proofs.Operation.Placeholder
import TypedClient.Proofs.Operation.Sibling
import TypedClient.Proofs.Source.Retry
import TypedClient.Proofs.Spec.Format
import TypedClient.Proofs.Spec.Reference
import TypedClient.Proofs.Spec.Repeats
import TypedClient.Proofs.TypeScript.Comment
import TypedClient.Proofs.TypeScript.Form
import TypedClient.Proofs.TypeScript.Growth
import TypedClient.Proofs.TypeScript.Literal
import TypedClient.Proofs.TypeScript.Search

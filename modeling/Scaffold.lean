import Scaffold.Main
import Scaffold.Request.Reader
import Scaffold.Proofs.CommandLine.Reproduction
import Scaffold.Proofs.Engine.Independence
import Scaffold.Proofs.Field.NormalForm
import Scaffold.Proofs.Program.Validation
import Scaffold.Proofs.Dialogue.Walk
import Scaffold.Proofs.Interview.Protocol
import Scaffold.Proofs.Interview.Agreement
import Scaffold.Proofs.Interview.Construction
import Scaffold.Proofs.Interview.Attainment
import Scaffold.Proofs.CommandLine.Pinning
import Scaffold.Proofs.Artifact.Imports
import Scaffold.Proofs.Artifact.Distinctness
import Scaffold.Proofs.Console.Literal
import Scaffold.Proofs.Engine.Session
import Scaffold.Proofs.Console.Table
import Scaffold.Proofs.Program.Summary
import Scaffold.Proofs.Engine.Repetition
import Scaffold.Proofs.Template.Substitution
import Scaffold.Proofs.Template.Rewriting
import Scaffold.Proofs.Artifact.Rewriting
import Scaffold.Proofs.Artifact.Declarations
import Scaffold.Proofs.Artifact.FieldLines
import Scaffold.Proofs.Artifact.Spacing
import Scaffold.Proofs.Artifact.Naming
import Scaffold.Proofs.FileTree.Writing

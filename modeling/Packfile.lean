import Packfile.Main
import Packfile.Manifest.Encode
import Packfile.Proofs.CommandLine.ExitCode
import Packfile.Proofs.Compiler.Isolation
import Packfile.Proofs.Compiler.Registered
import Packfile.Proofs.Compiler.Secrecy
import Packfile.Proofs.Compiler.Selection
import Packfile.Proofs.Environment.Decoders
import Packfile.Proofs.Environment.Quoted
import Packfile.Proofs.Manifest.RoundTrip
import Packfile.Proofs.Template.Concatenation
import Packfile.Proofs.Template.Meaning
import Packfile.Proofs.Tree.Yaml
import Packfile.Proofs.Yaml.Carried
import Packfile.Proofs.Template.Comments
import Packfile.Proofs.Template.Removal
import Packfile.Proofs.Release.Assignments
import Packfile.Proofs.Executor.Binary
import Packfile.Proofs.Executor.Format
import Packfile.Proofs.Executor.Recorder
import Packfile.Proofs.Registry.Declarations
import Packfile.Proofs.Compiler.Arguments
import Packfile.Proofs.FileSystem
import Packfile.Proofs.Pack.Reference
import Packfile.Proofs.Compiler.VarFiles
import Packfile.Proofs.Template.Data
import Packfile.Proofs.Manifest.Loading

import ContractHooks.Main
import ContractHooks.Text.Quoted
import ContractHooks.Proofs.Module.Run
import ContractHooks.Proofs.Abi.Group
import ContractHooks.Proofs.Abi.Partition
import ContractHooks.Proofs.Module.Plan
import ContractHooks.Proofs.Text.Runs
import ContractHooks.Proofs.Hook.Import
import ContractHooks.Proofs.Hook.Gathering
import ContractHooks.Proofs.Hook.ImportText
import ContractHooks.Proofs.Hook.Annotation
import ContractHooks.Proofs.Module.Output
import ContractHooks.Proofs.Module.Binding
import ContractHooks.Proofs.Module.Dialect
import ContractHooks.Proofs.Hook.Wording
import ContractHooks.Proofs.Hook.Symbols
import ContractHooks.Proofs.Hook.Fragment
import ContractHooks.Proofs.Module.ImportUse
import ContractHooks.Proofs.Text.Frame
import ContractHooks.Proofs.Text.Lines
import ContractHooks.Proofs.Text.Recased
import ContractHooks.Proofs.Text.Initial
import ContractHooks.Proofs.Text.Literal
import ContractHooks.Proofs.Text.Comment
import ContractHooks.Proofs.Abi.Spelling
import ContractHooks.Proofs.Abi.Shape
import ContractHooks.Proofs.Abi.Grammar
import ContractHooks.Proofs.Abi.Image
import ContractHooks.Proofs.Abi.Unused
import ContractHooks.Proofs.Hook.Given
import ContractHooks.Proofs.Hook.Function
import ContractHooks.Proofs.Hook.ImportAppend
import ContractHooks.Proofs.Hook.Lines
import ContractHooks.Proofs.Hook.Comment
import ContractHooks.Proofs.Hook.Name
import ContractHooks.Proofs.Hook.Overloads
import ContractHooks.Proofs.Module.Append
import ContractHooks.Proofs.Module.Collision
import ContractHooks.Proofs.Module.Toggle
import ContractHooks.Proofs.Module.Paragraphs
import ContractHooks.Proofs.Abi.Outline
import ContractHooks.Proofs.Module.Skeleton
import ContractHooks.Proofs.Module.Placement
import ContractHooks.Proofs.Project.Runnable
import ContractHooks.Proofs.Results
import ContractHooks.Proofs.Files.Tree
import ContractHooks.Proofs.Command.Arguments
import ContractHooks.Proofs.Command.Generate
import ContractHooks.Proofs.Text.Letters
import ContractHooks.Proofs.Hook.Letters
import ContractHooks.Proofs.Project.Constants
import ContractHooks.Proofs.Contract.Deployments
import ContractHooks.Proofs.Project.Target
import ContractHooks.Proofs.Project.Validity
import ContractHooks.Proofs.Hook.Presets
import ContractHooks.Proofs.Json.ReadBack
import ContractHooks.Proofs.Json.Shape
import ContractHooks.Proofs.Project.ReadBack

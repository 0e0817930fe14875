import MarkupTemplate.Call.Site
import MarkupTemplate.Component.Arguments
import MarkupTemplate.Format.Config
import MarkupTemplate.Format.Declaration
import MarkupTemplate.Format.Frame
import MarkupTemplate.Format.TreeReader
import MarkupTemplate.Format.TreeWriter
import MarkupTemplate.Json.Writer
import MarkupTemplate.OpenNodes
import MarkupTemplate.Registry.Basic
import MarkupTemplate.Version
import MarkupTemplate.Proofs.Normal.Spacing
import MarkupTemplate.Proofs.Tree.Reached
import MarkupTemplate.Proofs.Normal.Convert
import MarkupTemplate.Proofs.Normal.Form
import MarkupTemplate.Proofs.Normal.Shape
import MarkupTemplate.Proofs.Normal.Content
import MarkupTemplate.Proofs.Normal.Eager
import MarkupTemplate.Proofs.Call.Grammar
import MarkupTemplate.Proofs.Text.Trim
import MarkupTemplate.Proofs.Normal.Fault
import MarkupTemplate.Proofs.Normal.Stable
import MarkupTemplate.Proofs.Normal.TrimTexts
import MarkupTemplate.Proofs.Normal.Trimming
import MarkupTemplate.Proofs.Normal.Compiled
import MarkupTemplate.Proofs.Tree.Weight
import MarkupTemplate.Proofs.Normal.Recompile
import MarkupTemplate.Proofs.Normal.Directives
import MarkupTemplate.Proofs.Call.Counts
import MarkupTemplate.Proofs.Json.Plain
import MarkupTemplate.Proofs.Map.Matching
import MarkupTemplate.Proofs.Json.Same
import MarkupTemplate.Proofs.Registry.Sameness
import MarkupTemplate.Proofs.Registry.Classes
import MarkupTemplate.Proofs.Registry.Equation
import MarkupTemplate.Proofs.Registry.FirstFault
import MarkupTemplate.Proofs.Registry.History
import MarkupTemplate.Proofs.Normal.Growth
import MarkupTemplate.Proofs.Format.Directives
import MarkupTemplate.Proofs.Format.Fields
import MarkupTemplate.Proofs.Format.Tree
import MarkupTemplate.Proofs.Format.Lossless
import MarkupTemplate.Proofs.Tree.Erasure
import MarkupTemplate.Proofs.Component.ParamList
import MarkupTemplate.Proofs.Component.Runs
import MarkupTemplate.Proofs.Normal.Places
import MarkupTemplate.Proofs.Normal.Idle
import MarkupTemplate.Proofs.Normal.Rows
import MarkupTemplate.Proofs.Normal.Separators
import MarkupTemplate.Proofs.Component.Arguments
import MarkupTemplate.Proofs.Text.Quoted
import MarkupTemplate.Proofs.Call.Faults
import MarkupTemplate.Proofs.Registry.Partition
import MarkupTemplate.Proofs.Registry.Redeclared
import MarkupTemplate.Proofs.Json.Quoted
import MarkupTemplate.Proofs.Call.Literals
import MarkupTemplate.Proofs.Text.Search
import MarkupTemplate.Proofs.Text.Edges
import MarkupTemplate.Proofs.Normal.Rounds

import MiniLox.Decimal.Shortest
import MiniLox.Decimal.Layout
import MiniLox.Decimal.Reading
import MiniLox.Text.Ranges
import MiniLox.Text.Letter
import MiniLox.Text.Printable
import MiniLox.Text.Other
import MiniLox.Text.Space
import MiniLox.Text.Quoted
import MiniLox.Text.Utf8
import MiniLox.Text.ClusterBreak
import MiniLox.Text.Grapheme
import MiniLox.Text.Width
import MiniLox.Token
import MiniLox.Token.Scan
import MiniLox.Token.Machine
import MiniLox.Diagnostic
import MiniLox.Syntax
import MiniLox.Syntax.Parse
import MiniLox.Syntax.Parser
import MiniLox.Syntax.Print
import MiniLox.Value
import MiniLox.Environment
import MiniLox.Eval
import MiniLox.Log
import MiniLox.Session
import MiniLox.Repl
import MiniLox.Path
import MiniLox.Toml
import MiniLox.Yaml.Scan
import MiniLox.Yaml.Node
import MiniLox.Yaml.Decode
import MiniLox.Config
import MiniLox.Cli.Invocation
import MiniLox.Cli.Host
import MiniLox.Cli.Execute
import MiniLox.Cli.Workspace
import MiniLox.Main
import MiniLox.Proofs.ParseOutcome
import MiniLox.Proofs.ParseCursor
import MiniLox.Proofs.Grammar
import MiniLox.Proofs.ParseAppend
import MiniLox.Proofs.SessionRuns
import MiniLox.Proofs.Munch
import MiniLox.Proofs.ScanMunch
import MiniLox.Proofs.RuntimeFaults
import MiniLox.Proofs.ParseRecovery
import MiniLox.Proofs.ReplRuns
import MiniLox.Proofs.Relex
import MiniLox.Proofs.EvalOrder
import MiniLox.Proofs.EvalFrame
import MiniLox.Proofs.Viability
import MiniLox.Proofs.ErrorPlacement
import MiniLox.Proofs.EvalAgree
import MiniLox.Proofs.MachineRun

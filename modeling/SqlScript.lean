import SqlScript.Main
import SqlScript.Describe
import SqlScript.Pull
import SqlScript.Proofs.Consumption
import SqlScript.Proofs.Conservation
import SqlScript.Proofs.Refinement
import SqlScript.Proofs.Arrival
import SqlScript.Proofs.TextLines
import SqlScript.Proofs.Failing
import SqlScript.Proofs.Delivery
import SqlScript.Proofs.Restart
import SqlScript.Proofs.Formation
import SqlScript.Proofs.History
import SqlScript.Proofs.Alone
import SqlScript.Proofs.Characters
import SqlScript.Proofs.AtRest
import SqlScript.Proofs.LineNumbers
import SqlScript.Proofs.Progress
import SqlScript.Proofs.Quoting
import SqlScript.Proofs.Opacity
import SqlScript.Proofs.DirectiveGrammar
import SqlScript.Proofs.LineEnds
import SqlScript.Proofs.DeadDelimiters
import SqlScript.Proofs.NaiveSplit
import SqlScript.Proofs.OwnEscape
import SqlScript.Proofs.IdleEscapes
import SqlScript.Proofs.LogTrace
import SqlScript.Proofs.EntryPoints
import SqlScript.Proofs.TextViews
import SqlScript.Proofs.DialectNames
import SqlScript.Proofs.SearchSteps

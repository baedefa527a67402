import QueryTaint.Main
import QueryTaint.Proofs.Scan.Clearing
import QueryTaint.Proofs.Scan.Replacement
import QueryTaint.Proofs.Scan.Acceptance
import QueryTaint.Proofs.Scan.Plain
import QueryTaint.Proofs.Token.Forecast
import QueryTaint.Proofs.Token.Quoted
import QueryTaint.Proofs.Token.Comment
import QueryTaint.Proofs.Token.Literal
import QueryTaint.Proofs.Token.FreeForm
import QueryTaint.Proofs.Token.Generator
import QueryTaint.Proofs.Campaign.Steps
import QueryTaint.Proofs.Campaign.Oracle
import QueryTaint.Proofs.Campaign.Cause
import QueryTaint.Proofs.Campaign.History
import QueryTaint.Proofs.Campaign.Layout
import QueryTaint.Proofs.Campaign.Counters
import QueryTaint.Proofs.Scan.Extension
import QueryTaint.Proofs.Campaign.Course
import QueryTaint.Proofs.Campaign.Progress
import QueryTaint.Proofs.Campaign.Accord
import QueryTaint.Proofs.Disk
import QueryTaint.Proofs.Session
import QueryTaint.Proofs.Scan.Evidence
import QueryTaint.Proofs.Scan.Values
import QueryTaint.Proofs.Campaign.Prediction
import QueryTaint.Proofs.Token.LastCell
import QueryTaint.Proofs.Lexis.Delimiters
import QueryTaint.Proofs.Lexis.Longest
import QueryTaint.Proofs.Token.Shape
import QueryTaint.Proofs.Token.Verdict
import QueryTaint.Proofs.Campaign.Faultless
import QueryTaint.Proofs.CommandLine.Integer
import QueryTaint.Proofs.Validator
import QueryTaint.Proofs.CommandLine.Replay
import QueryTaint.Proofs.Text.Enumeration
import QueryTaint.Proofs.Campaign.Dump

import CodeSurvey.Analysis.Decode
import CodeSurvey.Analysis.Encode
import CodeSurvey.CommandLine.Run
import CodeSurvey.Config.Resolution
import CodeSurvey.Config.Toml
import CodeSurvey.Digest.Fnv
import CodeSurvey.Java.Extraction
import CodeSurvey.Json.Reader
import CodeSurvey.Json.Writer
import CodeSurvey.Language
import CodeSurvey.Main
import CodeSurvey.Project.Analyzer
import CodeSurvey.Proofs.Abbreviation
import CodeSurvey.Proofs.Analysis.Json
import CodeSurvey.Proofs.Arrival
import CodeSurvey.Proofs.Balance
import CodeSurvey.Proofs.Cohesion
import CodeSurvey.Proofs.DuplicatedLines
import CodeSurvey.Proofs.Duplication
import CodeSurvey.Proofs.Entity.Json
import CodeSurvey.Proofs.Graph.Extension
import CodeSurvey.Proofs.Graph.Merge
import CodeSurvey.Proofs.Graph.Order
import CodeSurvey.Proofs.Graph.Packages
import CodeSurvey.Proofs.Graph.Unblocking
import CodeSurvey.Proofs.Java.Attribution
import CodeSurvey.Proofs.Java.Comments
import CodeSurvey.Proofs.Java.Fields
import CodeSurvey.Proofs.Java.Imports
import CodeSurvey.Proofs.Java.Nesting
import CodeSurvey.Proofs.Java.OwnCalls
import CodeSurvey.Proofs.Java.Position
import CodeSurvey.Proofs.Json.Text
import CodeSurvey.Proofs.Layout
import CodeSurvey.Proofs.Project.Cache
import CodeSurvey.Proofs.Project.Ingestion
import CodeSurvey.Proofs.Ranking
import CodeSurvey.Proofs.TypeText
import CodeSurvey.Proofs.Unused
import CodeSurvey.Report

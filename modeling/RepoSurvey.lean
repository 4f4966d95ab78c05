import RepoSurvey.Catalogue
import RepoSurvey.Chat.Arguments
import RepoSurvey.Chat.Completions
import RepoSurvey.Main
import RepoSurvey.Prompt.Definition
import RepoSurvey.Rehearsal.Step
import RepoSurvey.Proofs.Agent.Interruption
import RepoSurvey.Proofs.Agent.Requests
import RepoSurvey.Proofs.Analysis.Assignments
import RepoSurvey.Proofs.Analysis.Checkpoints
import RepoSurvey.Proofs.Analysis.Efforts
import RepoSurvey.Proofs.Analysis.Errands
import RepoSurvey.Proofs.Analysis.Naming
import RepoSurvey.Proofs.Analysis.Operations
import RepoSurvey.Proofs.Analysis.Orders
import RepoSurvey.Proofs.Analysis.Overlaps
import RepoSurvey.Proofs.Analysis.ProjectKeys
import RepoSurvey.Proofs.Analysis.Repeats
import RepoSurvey.Proofs.Analysis.Sidebars
import RepoSurvey.Proofs.Analysis.Spending
import RepoSurvey.Proofs.Analysis.Successes
import RepoSurvey.Proofs.Analysis.Tidying
import RepoSurvey.Proofs.Analysis.ToolRecords
import RepoSurvey.Proofs.Analysis.Upkeep
import RepoSurvey.Proofs.Chat.Completions
import RepoSurvey.Proofs.Reply.Extraction
import RepoSurvey.Proofs.Service.Addresses
import RepoSurvey.Proofs.Service.Sharing
import RepoSurvey.Proofs.Session.Tenures
import RepoSurvey.Proofs.Store.Ledgers
import RepoSurvey.Proofs.Survey.Listings
import RepoSurvey.Proofs.Survey.Measures
import RepoSurvey.Proofs.Survey.Requirements
import RepoSurvey.Proofs.Survey.Skipping
import RepoSurvey.Proofs.Survey.Structures
import RepoSurvey.Proofs.Survey.TopLevels

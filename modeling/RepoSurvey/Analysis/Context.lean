import RepoSurvey.Analysis.Call
import RepoSurvey.Survey.Listing

/-!
# The context of runs

What stays the same over all runs: the files, the tools, the prompts, the languages, and the bounds on
work and on the time for which results and progress are kept.
-/

namespace RepoSurvey.Analysis

/-- The context of runs. -/
structure Context where
  working : Files.Entries
  operatingSystem : String
  processDirectory : String
  registry : Agent.Registry
  continuation : Agent.Continuation
  maxIterations : Int
  prompts : Prompt.Prompts
  concurrency : Nat
  primaryLanguage : String
  secondaryLanguage : String
  resultLifetime : Store.Lifetime
  progressLifetime : Store.Lifetime

namespace Context

/-- The number of writers at work when no other is given. -/
def defaultConcurrency : Nat := 4

/-- The language of documents when no other is given. -/
def defaultPrimaryLanguage : String := "en-US"

/-- The second language when no other is given. -/
def defaultSecondaryLanguage : String := "zh-CN"

/-- The seconds for which a result is kept when no other time is given. -/
def defaultResultSeconds : Int := 6 * 60 * 60

/-- The report about a number of writers below one. -/
def concurrencyRequired : String := "writer_concurrency must be at least 1"

/-- The checkout at a path. Of absolute paths only those in the process directory are known. -/
def checkout (context : Context) (path : String) : Files.Checkout :=
  .ofPath context.working (.ofText context.processDirectory) path

/-- The surroundings of an agent at work on a checkout. -/
def environment (context : Context) (checkout : Files.Checkout) : Survey.Environment :=
  ⟨checkout, context.operatingSystem, context.processDirectory⟩

/-- An agent with a key. -/
def agent (context : Context) (key : String) : Agent.Profile :=
  ⟨key, some context.registry, context.continuation,
    Agent.iterationBound (some context.maxIterations)⟩

end Context

end RepoSurvey.Analysis

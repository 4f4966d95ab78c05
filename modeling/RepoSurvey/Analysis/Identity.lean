import RepoSurvey.Text.Blank
import RepoSurvey.Text.Encoding

/-!
# Keys

A repository is identified by its URL. Documents are kept under a project key, in which the scheme, a
suffix and slashes at the ends do not count, so that several spellings share their documents. Progress
records and results are kept in one cache under keys of the exact URL.
-/

namespace RepoSurvey.Analysis

/-- The marks before an address. -/
def schemes : List String := ["https://", "http://", "ssh://", "file://", "git@"]

/-- The text after a mark. -/
def afterScheme? (text : List Char) (scheme : String) : Option (List Char) :=
  if scheme.toList.isPrefixOf text then some (text.drop scheme.length) else none

/-- Remove the first mark that stands before an address. -/
def withoutScheme (text : List Char) : List Char :=
  (schemes.findSome? (afterScheme? text)).getD text

/-- The suffix of an address that does not count. -/
def repositorySuffix : List Char := ".git".toList

/-- Remove the suffix that does not count. -/
def withoutSuffix (text : List Char) : List Char :=
  if repositorySuffix.isSuffixOf text then text.take (text.length - repositorySuffix.length)
  else text

/-- The key of a project: its URL without white space around it, one scheme, slashes at the ends and
one suffix; colons become slashes. -/
def projectKey (url : String) : String :=
  let address := Text.trimBy (· == '/') (withoutScheme (Text.trim url.toList))
  String.ofList ((withoutSuffix address).map fun c => if c = ':' then '/' else c)

/-- The key of a result in the cache, for the name of a type of analysis. -/
def resultKey (url typeName : String) : String := "analysis:" ++ url ++ ":" ++ typeName

/-- The key of a progress record in the cache. -/
def progressKey (url : String) : String := "progress:" ++ Text.Base64.ofText url

end RepoSurvey.Analysis

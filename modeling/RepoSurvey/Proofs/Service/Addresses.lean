import RepoSurvey.Proofs.Analysis.Naming
import RepoSurvey.Proofs.Analysis.Recitals
import RepoSurvey.Proofs.Json.Soundness
import RepoSurvey.Proofs.Schema.Restoring
import RepoSurvey.Proofs.Text.Encoding
import RepoSurvey.Proofs.Text.Marks
import RepoSurvey.Service.Reception

/-!
# Addresses of documents

The address of a document spells the key of its project and its name, each character as it is or escaped, and says
neither to stay nor to go back. A request for it has the path of the document, however it is spelled
(`Request.IsAddress.path_eq`). The path leads to the document, with one exception: since lists come first, the path of a
document with the name of a list leads to the documents of another project (`Route.ofPath?_documentPath`). So names that
titles lead to keep within their directory, and all but one of them can be asked for: `documentNames_account`.

Nothing is claimed here about projects whose keys have a line break, which no path leads to.
-/

namespace RepoSurvey.Files.Path

variable {name : String}

/-- A name without slashes stands behind the names of the directory. -/
theorem names_ofText_child (directory : String) (whole : '/' ∉ name.toList) (notIdle : isIdle name = false) :
    (ofText (directory ++ "/" ++ name)).names = (ofText directory).names ++ [name] := by
  have divided : (directory ++ "/" ++ name).toList.splitOn '/' = directory.toList.splitOn '/' ++ [name.toList] := by
    rw [String.toList_append, String.toList_append, List.append_assoc]
    exact (List.splitOn_append_cons_self _ _).trans (congrArg _ (List.splitOn_eq_singleton whole))
  rw [ofText, ofText, Text.splitOn_slash, Text.splitOn_slash, divided]
  simp [notIdle]

/-- A name that leads to a file is still there when names that two points take back are dropped. -/
theorem collapse_child (names : List String) (notIdle : isIdle name = false) (notAbove : name ≠ "..") :
    collapse (names ++ [name]) = collapse names ++ [name] := by
  simp [collapse, List.filter_append, List.foldl_append, notIdle, notAbove]

end RepoSurvey.Files.Path

namespace RepoSurvey.Analysis

variable {name : String}

/-- The file of a document. -/
def fileName (name : String) : String := name ++ ".md"

/-- No slash stands in the file of a document. -/
theorem IsFileName.whole (isName : IsFileName name) : '/' ∉ (fileName name).toList := by
  rw [fileName, String.toList_append, List.mem_append, not_or]
  exact ⟨isName.noPathCharacter '/' (by decide), by decide⟩

/-- The file of a document ends as it does. -/
theorem fileName_ne {other : String} (ending : other.toList.getLast? ≠ some 'd') : fileName name ≠ other := by
  rintro rfl
  exact ending (by simp [fileName, String.toList_append])

/-- The file of a document is no point. -/
theorem isIdle_fileName (name : String) : Files.Path.isIdle (fileName name) = false := by
  rw [Files.Path.isIdle, decide_eq_false (fileName_ne (by decide)), decide_eq_false (fileName_ne (by decide))]
  rfl

end RepoSurvey.Analysis

namespace RepoSurvey.Service

open Analysis
open Files (Path)
open Text.Percent (Spells StandsAsIs)

/-! ## Routes -/

namespace Route

variable {ending : String} {text rest : List Char} {project name : String}

/-- Whether a text ends so. -/
theorem before?_eq_some_iff : before? ending text = some rest ↔ text = rest ++ ending.toList := by
  unfold before?
  split
  · next ends =>
    obtain ⟨start, rfl⟩ := List.isSuffixOf_iff_suffix.mp ends
    rw [List.length_append, String.length_toList, Nat.add_sub_cancel, List.take_left, Option.some.injEq,
      List.append_left_inj, eq_comm]
  · next ends =>
    refine ⟨nofun, ?_⟩
    rintro rfl
    exact absurd (List.isSuffixOf_iff_suffix.mpr (List.suffix_append _ _)) ends

/-- The path of a document. -/
def documentPath (project name : String) : String := "/v1/docs/" ++ project ++ "/file/" ++ name

/-- The characters of the path of a document. -/
theorem toList_documentPath (project name : String) : (documentPath project name).toList =
    documentsRoot ++ (project.toList ++ "/file".toList ++ '/' :: name.toList) := by
  have slash : "/file/".toList ++ name.toList = "/file".toList ++ '/' :: name.toList := rfl
  rw [documentPath, String.append_assoc, String.append_assoc, String.toList_append, String.toList_append,
    String.toList_append, slash, ← List.append_assoc project.toList]
  rfl

/-- No fixed path lies below the root of documents. -/
theorem find?_fixed_documentPath (project name : String) :
    fixed.find? (·.1 == documentPath project name) = none := by
  have elsewhere : ∀ entry ∈ fixed, documentsRoot.isPrefixOf entry.1.toList = false := by decide
  refine List.find?_eq_none.mpr fun entry member isPath => ?_
  have isBelow := elsewhere entry member
  rw [beq_iff_eq.mp isPath, toList_documentPath] at isBelow
  exact absurd (List.isPrefixOf_iff_prefix.mpr (List.prefix_append _ _)) (by rw [isBelow]; decide)

/-- What is behind the last slash. -/
theorem takeWhile_behind (left : List Char) (whole : '/' ∉ text) :
    ((left ++ '/' :: text).reverse.takeWhile (· != '/')).reverse = text := by
  have passes : ∀ c ∈ text.reverse, (c != '/') = true := fun c member =>
    bne_iff_ne.mpr fun isSlash => whole (isSlash ▸ List.mem_reverse.mp member)
  rw [List.reverse_append, List.reverse_cons, List.append_assoc, List.takeWhile_append_of_pos passes]
  simp

/-- A path of a document lists documents only if the document has the name of a list. -/
theorem documentList?_document (oneLine : '\n' ∉ project.toList) (whole : '/' ∉ name.toList) :
    documentList? (project.toList ++ "/file".toList ++ '/' :: name.toList) =
      if name = "list" then some (.documentList (project ++ "/file")) else none := by
  unfold documentList?
  split
  · next isList =>
    have ends : before? "/list" (project.toList ++ "/file".toList ++ '/' :: name.toList) =
        some (project.toList ++ "/file".toList) := before?_eq_some_iff.mpr (by rw [isList]; rfl)
    have noBreak : ¬(project.toList ++ "/file".toList).contains '\n' = true := by simpa using oneLine
    rw [ends, Option.bind_eq_bind, Option.bind_some, projectKey?, if_neg noBreak, String.ofList_append,
      String.ofList_toList, String.ofList_toList]
    rfl
  · next noList =>
    have ends : before? "/list" (project.toList ++ "/file".toList ++ '/' :: name.toList) = none := by
      refine Option.eq_none_iff_forall_ne_some.mpr fun rest isRest => noList ?_
      have same := before?_eq_some_iff.mp isRest
      exact String.toList_injective (Analysis.split_unique whole (by decide : '/' ∉ "list".toList) same).2
    rw [ends]
    rfl

/-- A document is found at its path. -/
theorem document?_document (oneLine : '\n' ∉ project.toList) (whole : '/' ∉ name.toList) (notEmpty : name ≠ "") :
    document? (project.toList ++ "/file".toList ++ '/' :: name.toList) = some (.document project name) := by
  have isSome : ¬name.toList.isEmpty = true := by simpa using notEmpty
  have before : (project.toList ++ "/file".toList ++ '/' :: name.toList).take
      ((project.toList ++ "/file".toList ++ '/' :: name.toList).length - name.toList.length) =
        project.toList ++ "/file/".toList := by
    rw [List.append_cons, List.length_append, Nat.add_sub_cancel, List.take_left, List.append_assoc]
    rfl
  have ends : before? "/file/" (project.toList ++ "/file/".toList) = some project.toList :=
    before?_eq_some_iff.mpr rfl
  have noBreak : ¬project.toList.contains '\n' = true := by simpa using oneLine
  simp only [document?, takeWhile_behind _ whole]
  rw [if_neg isSome, before, ends, Option.bind_eq_bind, Option.bind_some, projectKey?, if_neg noBreak,
    String.ofList_toList, String.ofList_toList]
  rfl

/-- The path of a document leads to it, unless it has the name of a list: then it leads to a list. -/
theorem ofPath?_documentPath (oneLine : '\n' ∉ project.toList) (whole : '/' ∉ name.toList) (notEmpty : name ≠ "") :
    ofPath? (documentPath project name) =
      some (if name = "list" then .documentList (project ++ "/file") else .document project name) := by
  have below : documentsRoot.isPrefixOf (documentPath project name).toList = true := by
    rw [toList_documentPath]
    exact List.isPrefixOf_iff_prefix.mpr (List.prefix_append _ _)
  rw [ofPath?, find?_fixed_documentPath, Option.map_none, Option.none_or, ofDocumentPath?, if_pos below,
    toList_documentPath, List.drop_left]
  dsimp only
  rw [documentList?_document oneLine whole, document?_document oneLine whole notEmpty]
  split <;> rfl

end Route

/-! ## Paths of targets -/

namespace Request

/-- A target up to its query. -/
def addressOf (target : String) : List Char := (target.toList.takeWhile (· != '#')).takeWhile (· != '?')

/-- Whether segments of a path say neither to stay nor to go back. -/
def IsDirect (segments : List (List Char)) : Prop := ∀ segment ∈ segments, segment ≠ ['.'] ∧ segment ≠ ['.', '.']

instance (segments : List (List Char)) : Decidable (IsDirect segments) :=
  inferInstanceAs (Decidable (∀ segment ∈ segments, segment ≠ ['.'] ∧ segment ≠ ['.', '.']))

/-- Nothing is dropped from a path without detours. -/
theorem dropDots_of_isDirect {segments : List (List Char)} (direct : IsDirect segments) :
    dropDots (segments.map String.ofList) = segments.map String.ofList := by
  have kept : ∀ before : List String, (segments.map String.ofList).foldl (fun kept segment =>
      if segment = "." then kept
      else if segment = ".." then if kept = [""] then kept else kept.dropLast
      else kept ++ [segment]) before = before ++ segments.map String.ofList := by
    induction segments with
    | nil => simp
    | cons segment segments inductionHypothesis =>
      obtain ⟨⟨notPoint, notPoints⟩, direct⟩ := List.forall_mem_cons.mp direct
      intro before
      have stays : String.ofList segment ≠ "." := fun same => notPoint (by simpa using congrArg String.toList same)
      have above : String.ofList segment ≠ ".." := fun same => notPoints (by simpa using congrArg String.toList same)
      rw [List.map_cons, List.foldl_cons, if_neg stays, if_neg above, inductionHypothesis direct, List.append_assoc,
        List.singleton_append]
  exact kept []

/-- A target without detours that starts with a single slash is its own path. -/
theorem pathOf_of_isDirect {first : Char} {rest : List Char} (single : first ≠ '/')
    (direct : IsDirect (('/' :: first :: rest).splitOn '/')) :
    pathOf ('/' :: first :: rest) = String.ofList ('/' :: first :: rest) := by
  have single : '/' ≠ first := single.symm
  have noAuthority : dropAuthority ('/' :: first :: rest) = '/' :: first :: rest := by
    simp [dropAuthority, Char.isAlphanum, Char.isAlpha, Char.isUpper, Char.isLower, Char.isDigit, single]
  have isPath : '/' :: ('/' :: first :: rest).dropWhile (· == '/') = '/' :: first :: rest := by
    simp [Ne.symm single]
  rw [pathOf, noAuthority, isPath, Text.splitOn_slash, String.toList_ofList, dropDots_of_isDirect direct]
  have unchanged : String.toList ∘ String.ofList = id := funext fun _ => String.toList_ofList
  apply String.toList_injective
  rw [String.toList_intercalate, List.map_map, unchanged, List.map_id]
  exact (List.intercalate_splitOn '/').trans String.toList_ofList.symm

/-- Whether a target is an address of a document: below the root of documents it spells the key of the project, without
detours, and the name of the document, and a query may follow. -/
inductive IsAddress (project name target : String) : Prop
  | mk {place spelling : List Char} (isProject : Spells place project.toList) (isName : Spells spelling name.toList)
      (direct : IsDirect (place.splitOn '/'))
      (isTarget : addressOf target = Route.documentsRoot ++ (place ++ "/file".toList ++ '/' :: spelling))

variable {project name target : String}

/-- An address spells the path of its document. -/
theorem spells_address {place spelling : List Char} (isProject : Spells place project.toList)
    (isName : Spells spelling name.toList) :
    Spells (Route.documentsRoot ++ (place ++ "/file".toList ++ '/' :: spelling))
      (Route.documentPath project name).toList := by
  have root : Spells Route.documentsRoot Route.documentsRoot := Text.Percent.spells_self (by decide)
  have file : Spells "/file".toList "/file".toList := Text.Percent.spells_self (by decide)
  rw [Route.toList_documentPath]
  exact root.append ((isProject.append file).append (.plain (by decide) isName))

/-- The segments of an address. -/
theorem splitOn_address (place : List Char) {spelling : List Char} (whole : '/' ∉ spelling) :
    (Route.documentsRoot ++ (place ++ "/file".toList ++ '/' :: spelling)).splitOn '/' =
      [[], "v1".toList, "docs".toList] ++ (place.splitOn '/' ++ ["file".toList] ++ [spelling]) := by
  have root : Route.documentsRoot = "/v1/docs".toList ++ '/' :: [] := rfl
  have inner : place ++ "/file".toList = place ++ '/' :: "file".toList := rfl
  rw [root, List.append_assoc, List.cons_append, List.nil_append, List.splitOn_append_cons_self,
    List.splitOn_append_cons_self, inner, List.splitOn_append_cons_self, List.splitOn_eq_singleton whole]
  rfl

/-- A request for an address of a document has the path of the document, however it is spelled. -/
theorem IsAddress.path_eq (address : IsAddress project name target) (whole : '/' ∉ name.toList)
    (start : name.toList.head? ≠ some '.') (method : String) (body : Option String) :
    (ofTarget method target body).path = Route.documentPath project name := by
  obtain ⟨isProject, isName, direct, isTarget⟩ := address
  rename_i place spelling
  have wholeToo : '/' ∉ spelling := isName.notMem (by decide) (by decide) fun member => absurd member whole
  have notPoints : spelling ≠ ['.'] ∧ spelling ≠ ['.', '.'] := by
    constructor <;> rintro rfl <;> exact start (isName.head? (by decide))
  have directToo : IsDirect ((addressOf target).splitOn '/') := by
    rw [isTarget, splitOn_address place wholeToo]
    simp only [IsDirect, List.forall_mem_append, List.forall_mem_singleton]
    exact ⟨by decide, ⟨direct, by decide⟩, notPoints⟩
  have spells : Spells (addressOf target) (Route.documentPath project name).toList :=
    isTarget ▸ spells_address isProject isName
  have isPath : pathOf (addressOf target) = String.ofList (addressOf target) := by
    rw [isTarget] at directToo ⊢
    exact pathOf_of_isDirect (by decide) directToo
  change String.ofList (Text.Percent.decode (pathOf (addressOf target)).toList) = _
  rw [isPath, String.toList_ofList, spells.decode, String.ofList_toList]

/-- The target that encodes the key of a project and the name of a document. -/
def encodedTarget (project name : String) : String :=
  String.ofList (Route.documentsRoot ++ (Text.Percent.encode project.toList ++ "/file".toList ++
    '/' :: Text.Percent.encode name.toList))

/-- A text without a mark is all that stands before it. -/
theorem takeWhile_unmarked {mark : Char} {chars : List Char} (absent : mark ∉ chars) :
    chars.takeWhile (· != mark) = chars :=
  List.takeWhile_eq_self_iff.mpr fun _ member => bne_iff_ne.mpr fun isMark => absent (isMark ▸ member)

/-- A target that encodes a document is an address of it, if the key of its project has no detours. -/
theorem isAddress_encodedTarget (direct : IsDirect ((Text.Percent.encode project.toList).splitOn '/')) :
    IsAddress project name (encodedTarget project name) := by
  have isProject := Text.Percent.spells_encode project.toList
  have isName := Text.Percent.spells_encode name.toList
  have spells := spells_address isProject isName
  have noFragment := spells.notMem (by decide : '#' ≠ '%') (by decide) fun _ => by decide
  have noQuery := spells.notMem (by decide : '?' ≠ '%') (by decide) fun _ => by decide
  refine ⟨isProject, isName, direct, ?_⟩
  rw [addressOf, encodedTarget, String.toList_ofList, takeWhile_unmarked noFragment, takeWhile_unmarked noQuery]

/-- The language that a request asks for. -/
def language? (request : Request) : Schema.Checked String :=
  (Schema.Codec.record "" languagePart).read request.queryObject

/-- Every request asks for a language, perhaps by saying nothing about it. -/
theorem exists_language (request : Request) : ∃ language, request.language? = .valid language := by
  let members := Json.mergeMembers (request.query.map fun part => (part.1, Json.str part.2))
  have texts : ∀ member ∈ members, ∃ text, member.2 = .str text := by
    refine @Json.forall_mergeMembers (fun value => ∃ text, value = .str text) _ fun member isMember => ?_
    obtain ⟨⟨name, value⟩, -, rfl⟩ := List.mem_map.mp isMember
    exact ⟨value, rfl⟩
  have isRead : request.language? = languagePart.read members := rfl
  rw [isRead]
  simp only [languagePart, Schema.Part.field, Schema.Part.named, Option.or_self]
  split
  · next value found =>
    obtain ⟨text, rfl⟩ := texts _ (Schema.mem_of_lookup found)
    exact ⟨text, rfl⟩
  · exact ⟨_, rfl⟩

/-- A target without a query asks for the default language. -/
theorem language?_of_noQuery (noQuery : '?' ∉ target.toList) (method : String) (body : Option String) :
    (ofTarget method target body).language? = .valid Context.defaultPrimaryLanguage := by
  have whole : ∀ c ∈ target.toList.takeWhile (· != '#'), (c != '?') = true := fun c member =>
    bne_iff_ne.mpr fun isMark => noQuery (isMark ▸ (List.takeWhile_prefix _).subset member)
  have noParameters : parameters (String.ofList []) = [] := by
    have divided := Text.splitOn_mark '&' (String.ofList [])
    change (String.ofList []).splitOn "&" = [""] at divided
    rw [parameters, divided]
    rfl
  have isQuery : (ofTarget method target body).query = [] := by
    rw [ofTarget]
    dsimp only
    rw [List.dropWhile_eq_nil_iff.mpr whole, List.drop_nil, noParameters]
  rw [language?, queryObject, isQuery]
  rfl

end Request

/-! ## Responses -/

section Responses

variable {σ : Type} {surroundings : Surroundings σ} {context : Context} {state : State σ} {request : Request}
  {project name language : String}

/-- What is answered about a published document. -/
def documentResponse (documents : Store.Documents) (project name language : String) : Response :=
  match documents.get? project name language .published with
  | some text => ⟨200, .markdown text⟩
  | none => .explained 404 ("Document not found: " ++ project ++ "/" ++ name ++ " (" ++ language ++ ")")

/-- What is answered about the published documents of a project. -/
def documentListResponse (documents : Store.Documents) (project language : String) : Response :=
  .ok (.obj
    [ ("project_key", .str project), ("language", .str language),
      ("documents", Json.ofTexts (documents.names project language .published)) ])

/-- A language that is read is gone on with. -/
theorem withQuery_language {next : String -> Handling Response} (asksFor : request.language? = .valid language) :
    withQuery request languagePart next = next language := by
  rw [Request.language?] at asksFor
  rw [withQuery, asksFor]

/-- A request for a document is answered with the document, and nothing changes. -/
theorem respond_document (isRoute : Route.ofPath? request.path = some (.document project name))
    (isMethod : request.method = "GET") (asksFor : request.language? = .valid language) :
    State.respond surroundings (some context) request state =
      (.ok (documentResponse state.world.documents project name language), state) := by
  have isGet : request.method = (Route.document project name).method := isMethod
  simp only [State.respond, respond, isRoute, if_pos isGet, answerRoute, withQuery_language asksFor]
  -- What is asked is answered first; only what is done with the answer is left.
  change Activity.run _ (ExceptT.run (match state.world.documents.get? project name language .published with
    | some text => (pure ⟨200, .markdown text⟩ : Handling Response)
    | none => pure (.explained 404
      ("Document not found: " ++ project ++ "/" ++ name ++ " (" ++ language ++ ")")))) state = _
  rw [documentResponse]
  split <;> rfl

/-- A request for the documents of a project is answered with their names, and nothing changes. -/
theorem respond_documentList (isRoute : Route.ofPath? request.path = some (.documentList project))
    (isMethod : request.method = "GET") (asksFor : request.language? = .valid language) :
    State.respond surroundings (some context) request state =
      (.ok (documentListResponse state.world.documents project language), state) := by
  have isGet : request.method = (Route.documentList project).method := isMethod
  simp only [State.respond, respond, isRoute, if_pos isGet, answerRoute, withQuery_language asksFor]
  rfl

/-- What is answered at the address of a document: the document, unless it has the name of a list. Then the documents of
what is taken for a project are listed. -/
def addressResponse (documents : Store.Documents) (project name language : String) : Response :=
  if name = "list" then documentListResponse documents (project ++ "/file") language
  else documentResponse documents project name language

/-- A request for an address of a document is answered, and nothing changes. -/
theorem respond_address {target : String} (address : Request.IsAddress project name target)
    (oneLine : '\n' ∉ project.toList) (isName : IsFileName name) (body : Option String) :
    ∃ language, (Request.ofTarget "GET" target body).language? = .valid language ∧
      State.respond surroundings (some context) (Request.ofTarget "GET" target body) state =
        (.ok (addressResponse state.world.documents project name language), state) := by
  have whole : '/' ∉ name.toList := isName.noPathCharacter '/' (by decide)
  have isMethod : (Request.ofTarget "GET" target body).method = "GET" := by
    apply String.toList_injective
    change ("GET".map Char.toUpper).toList = _
    rw [String.toList_map]
    rfl
  have isRoute := Route.ofPath?_documentPath oneLine whole isName.notEmpty
  rw [← address.path_eq whole isName.start "GET" body] at isRoute
  obtain ⟨language, asksFor⟩ := Request.exists_language (Request.ofTarget "GET" target body)
  refine ⟨language, asksFor, ?_⟩
  unfold addressResponse
  split
  · next isList =>
    rw [if_pos isList] at isRoute
    exact respond_documentList isRoute isMethod asksFor
  · next noList =>
    rw [if_neg noList] at isRoute
    exact respond_document isRoute isMethod asksFor

end Responses

/-- **Names of documents.** Every title leads to a name that can name a file, and just such names are left as they are
when they are taken for titles. Every name that a document of a batch is given is one of them. So the file of the
document lies in the directory that it is written to, also when names are taken back on the way, and the document has
addresses. At each of them, in whatever state a service is, the document is found if it is published, and nothing
changes. The only exception is a document with the name of a list: its addresses are those of a list of documents. -/
theorem documentNames_account {σ : Type} (surroundings : Surroundings σ) (context : Context) (state : State σ) :
    (∀ title, IsFileName (documentName title) ∧ documentName (documentName title) = documentName title) ∧
      (∀ name, documentName name = name ↔ IsFileName name) ∧
      ∀ (tasks : List DocumentTask), ∀ name ∈ assignNames (tasks.map (·.title)),
        (IsFileName name ∧ documentName name = name) ∧
        (∀ directory, (Path.ofText (directory ++ "/" ++ fileName name)).names =
            (Path.ofText directory).names ++ [fileName name] ∧
          Path.collapse (Path.ofText (directory ++ "/" ++ fileName name)).names =
            Path.collapse (Path.ofText directory).names ++ [fileName name]) ∧
        (∀ project, Request.IsDirect ((Text.Percent.encode project.toList).splitOn '/') ->
          Request.IsAddress project name (Request.encodedTarget project name)) ∧
        ∀ project target body, Request.IsAddress project name target -> '\n' ∉ project.toList ->
          ∃ language, (Request.ofTarget "GET" target body).language? = .valid language ∧
            State.respond surroundings (some context) (Request.ofTarget "GET" target body) state =
              (.ok (addressResponse state.world.documents project name language), state) := by
  refine ⟨fun title => ?_, fun name => documentName_eq_self_iff, fun tasks name member => ?_⟩
  · have isName := isFileName_documentName title
    exact ⟨isName, documentName_eq_self_iff.mpr isName⟩
  · have isName := isFileName_of_mem_assignNames member
    refine ⟨⟨isName, documentName_eq_self_iff.mpr isName⟩, fun directory => ?_, ?_, ?_⟩
    · have child := Path.names_ofText_child directory isName.whole (isIdle_fileName name)
      refine ⟨child, ?_⟩
      rw [child]
      exact Path.collapse_child _ (isIdle_fileName name) (fileName_ne (by decide))
    · exact fun project direct => Request.isAddress_encodedTarget direct
    · exact fun project target body address oneLine => respond_address address oneLine isName body

/-- Tasks of which the second has the name of a list. -/
def listTasks : List DocumentTask := ["Order Intake", "list"].map fun title => ⟨title, "", "", "", none⟩

/-- A service that has published the documents of both. -/
def listState : State (List String) := .start
  { World.untouched [] with documents := ["OrderIntake", "list"].map fun name =>
      ⟨"u", name, Context.defaultPrimaryLanguage, .published, "# " ++ name, .ofMoment ⟨0⟩⟩ }

/-- What the service answers to a request for a document. -/
def listAnswer (name : String) : Except Failure Response :=
  (State.respond (.reciting fun _ => none) (some emptyContext)
    (Request.ofTarget "GET" (Request.encodedTarget "u" name) none) listState).1

/-- The first document is found at its address. At the address of the second documents of another project are listed, of
which there are none. -/
theorem listTasks_answered :
    assignNames (listTasks.map (·.title)) = ["OrderIntake", "list"] ∧
      (listAnswer "OrderIntake").toOption = some ⟨200, .markdown "# OrderIntake"⟩ ∧
      (listAnswer "list").toOption = some (documentListResponse [] "u/file" Context.defaultPrimaryLanguage) := by
  have names : assignNames (listTasks.map (·.title)) = ["OrderIntake", "list"] := by decide +kernel
  obtain ⟨-, -, named⟩ := documentNames_account (.reciting fun _ => none) emptyContext listState
  have answers : ∀ name ∈ ["OrderIntake", "list"], '?' ∉ (Request.encodedTarget "u" name).toList ->
      listAnswer name =
        .ok (addressResponse listState.world.documents "u" name Context.defaultPrimaryLanguage) := by
    intro name member noQuery
    obtain ⟨-, -, addressed, answered⟩ := named listTasks name (by rwa [names])
    obtain ⟨language, asksFor, isAnswer⟩ := answered "u" _ none (addressed "u" (by decide)) (by decide)
    obtain rfl := Schema.Checked.valid.inj (asksFor.symm.trans (Request.language?_of_noQuery noQuery _ _))
    exact congrArg Prod.fst isAnswer
  refine ⟨names, ?_, ?_⟩
  · rw [answers "OrderIntake" (by decide) (by decide)]
    decide +kernel
  · rw [answers "list" (by decide) (by decide)]
    decide +kernel

end RepoSurvey.Service

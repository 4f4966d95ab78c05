import RepoSurvey.Proofs.Analysis.Naming
import RepoSurvey.Proofs.Text.Marks

/-!
# Reading sidebars

A sidebar is read by parting what is below its header at empty lines, and each part as the line of a link whose title
ends at the first mark between a title and a target. Reading accepts the sidebars of plain links and nothing else
(`readSidebar_eq_some_iff`): titles of such links hold neither an empty line nor that mark. Titles are written as they
are, though, and names of documents are no help: two neighbouring links have the same sidebar as a single one with the
name of the second, `sidebarText_merge`.
-/

namespace RepoSurvey.Analysis

open Text (Mark)

/-! ## Lines of links -/

/-- The mark between the title and the target of a link. -/
def targetMark : Mark := ⟨']', '('⟩

/-- The empty line between two links. -/
def emptyLine : Mark := ⟨'\n', '\n'⟩

/-- Read the line of a link. The title ends at the first mark between a title and a target. -/
def Link.ofLine? (line : List Char) : Option Link := do
  let rest <- line.dropPrefix? "- [".toList
  let (title, target) <- targetMark.cut? rest
  let docName <- target.dropSuffix? ".md)".toList
  pure ⟨String.ofList title, String.ofList docName⟩

/-- The characters of the line of a link. -/
theorem Link.toList_line (link : Link) : link.line.toList =
    "- [".toList ++ (link.title.toList ++ targetMark.chars ++ (link.docName.toList ++ ".md)".toList)) := by
  simp [Link.line, targetMark, Mark.chars, String.toList_append]

/-- A line is read as a link when it is the line of the link, and no mark of a target stands in the title. -/
theorem Link.ofLine?_eq_some_iff {line : List Char} {link : Link} : Link.ofLine? line = some link ↔
    line = link.line.toList ∧ ¬ targetMark.chars <:+: link.title.toList := by
  simp only [Link.ofLine?, Option.bind_eq_bind, Option.bind_eq_some_iff, List.dropPrefix?_eq_some_iff,
    List.dropSuffix?_eq_some_iff, beq_iff_eq, Option.pure_def, Option.some.injEq, Link.toList_line]
  constructor
  · rintro ⟨rest, ⟨_, rfl, rfl⟩, ⟨title, target⟩, isCut, docName, ⟨_, rfl, rfl⟩, rfl⟩
    obtain ⟨rfl, absent⟩ := Mark.of_cut?_eq_some isCut
    simpa only [String.toList_ofList, true_and] using absent
  · rintro ⟨rfl, absent⟩
    have notBefore : ¬ targetMark.chars <:+: link.title.toList ++ [targetMark.first] := by
      rw [Mark.chars_infix_concat]
      rintro (found | ⟨same, -⟩)
      · exact absent found
      · exact absurd same (by decide)
    refine ⟨_, ⟨_, rfl, rfl⟩, (link.title.toList, link.docName.toList ++ ".md)".toList), Mark.cut?_append notBefore,
      link.docName.toList, ⟨_, rfl, rfl⟩, ?_⟩
    rw [String.ofList_toList, String.ofList_toList]

/-! ## Sidebars -/

/-- What stands between empty lines below the header of a text; nothing for a text without the header. -/
def sidebarParts (text : String) : Option (List (List Char)) :=
  (text.toList.dropPrefix? (sidebarHeader ++ "\n").toList).map fun body =>
    if body.isEmpty then [] else emptyLine.parts body

/-- Read a sidebar. -/
def readSidebar (text : String) : Option (List Link) := do
  let lines <- sidebarParts text
  lines.mapM Link.ofLine?

/-- Whether a title can be told from what stands around it in a sidebar. -/
structure IsPlainTitle (title : String) : Prop where
  unbroken : ¬ emptyLine.chars <:+: title.toList
  unmarked : ¬ targetMark.chars <:+: title.toList

/-- The characters of a sidebar. -/
theorem toList_sidebarText (links : List Link) : (sidebarText links).toList =
    (sidebarHeader ++ "\n").toList ++ emptyLine.chars.intercalate (links.map fun link => link.line.toList) := by
  rw [sidebarText, String.toList_append, String.toList_intercalate, List.map_map]
  rfl

/-- The line of a link whose document has a safe name holds an empty line only if the title does. -/
theorem Link.emptyLine_infix_line {link : Link} (safe : ∀ c ∈ link.docName.toList, isUnsafe c = false) :
    emptyLine.chars <:+: link.line.toList ↔ emptyLine.chars <:+: link.title.toList := by
  have noBreak : '\n' ∉ link.docName.toList := by
    intro member
    nomatch safe _ member
  rw [Link.toList_line, Text.infix_append_iff_right, List.append_assoc, Text.infix_append_iff_left]
  · intro c member
    obtain rfl : c = '\n' := by simpa [emptyLine, Mark.chars] using member
    simpa [targetMark, Mark.chars] using noBreak
  · intro c member
    obtain rfl : c = '\n' := by simpa [emptyLine, Mark.chars] using member
    simp

/-- The line of a link does not end in a line break. -/
theorem Link.emptyLine_infix_concat {link : Link} :
    emptyLine.chars <:+: link.line.toList ++ [emptyLine.first] ↔ emptyLine.chars <:+: link.line.toList := by
  rw [Mark.chars_infix_concat, or_iff_left]
  rintro ⟨-, start, same⟩
  have last := congrArg List.getLast? same
  simp [Link.toList_line, List.getLast?_cons, emptyLine] at last

/-- What the lines of links are joined to begins as the first line does. -/
theorem isEmpty_intercalate_lines (links : List Link) :
    (emptyLine.chars.intercalate (links.map fun link => link.line.toList)).isEmpty = links.isEmpty := by
  rcases links with - | ⟨link, - | ⟨next, links⟩⟩
  · rfl
  · simp [Link.toList_line]
  · simp [Link.toList_line]

/-- What a text has below its header is joined from its parts, and no part holds an empty line. -/
theorem of_sidebarParts {text : String} {lines : List (List Char)} (isParts : sidebarParts text = some lines) :
    text.toList = (sidebarHeader ++ "\n").toList ++ emptyLine.chars.intercalate lines ∧
      ∀ line ∈ lines, ¬ emptyLine.chars <:+: line := by
  obtain ⟨body, isBody, rfl⟩ := Option.map_eq_some_iff.mp isParts
  obtain ⟨_, isText, same⟩ := List.dropPrefix?_eq_some_iff.mp isBody
  obtain rfl := beq_iff_eq.mp same
  rw [isText]
  split
  · next none =>
    rw [List.isEmpty_iff.mp none]
    exact ⟨rfl, List.forall_mem_nil _⟩
  · exact ⟨by rw [Mark.intercalate_parts], fun line => Mark.notMem_parts⟩

/-- A sidebar has the lines of its links for parts exactly when none of them holds an empty line. -/
theorem sidebarParts_sidebarText {links : List Link} :
    sidebarParts (sidebarText links) = some (links.map fun link => link.line.toList) ↔
      ∀ link ∈ links, ¬ emptyLine.chars <:+: link.line.toList := by
  constructor
  · intro isParts link member
    exact (of_sidebarParts isParts).2 _ (List.mem_map.mpr ⟨link, member, rfl⟩)
  · intro unbroken
    have body : (sidebarText links).toList.dropPrefix? (sidebarHeader ++ "\n").toList =
        some (emptyLine.chars.intercalate (links.map fun link => link.line.toList)) :=
      List.dropPrefix?_eq_some_iff.mpr ⟨_, toList_sidebarText links, beq_self_eq_true _⟩
    rw [sidebarParts, body, Option.map_some, isEmpty_intercalate_lines]
    split
    · next none =>
      rw [List.isEmpty_iff.mp none]
      rfl
    · next some =>
      have some : links.map (fun link => link.line.toList) ≠ [] := by simpa using some
      rw [Mark.parts_intercalate some]
      simpa only [List.forall_mem_map, Link.emptyLine_infix_concat] using unbroken

/-- Lines are read as links when they are the lines of the links, and no mark of a target stands in a title. -/
theorem mapM_ofLine?_eq_some_iff {lines : List (List Char)} {links : List Link} :
    lines.mapM Link.ofLine? = some links ↔ lines = links.map (fun link => link.line.toList) ∧
      ∀ link ∈ links, ¬ targetMark.chars <:+: link.title.toList := by
  induction lines generalizing links with
  | nil => cases links <;> simp
  | cons line lines inductionHypothesis =>
    cases links with
    | nil => simp [List.mapM_cons, Option.bind_eq_some_iff]
    | cons link links =>
      simp [List.mapM_cons, Option.bind_eq_some_iff, Link.ofLine?_eq_some_iff, inductionHypothesis]
      tauto

/-- Reading accepts the sidebars of links in whose lines no empty line and in whose titles no mark of a target stands,
and gives these links back. -/
theorem readSidebar_eq_some_iff {text : String} {links : List Link} : readSidebar text = some links ↔
    text = sidebarText links ∧
      ∀ link ∈ links, ¬ emptyLine.chars <:+: link.line.toList ∧ ¬ targetMark.chars <:+: link.title.toList := by
  simp only [readSidebar, Option.bind_eq_bind, Option.bind_eq_some_iff, mapM_ofLine?_eq_some_iff]
  constructor
  · rintro ⟨_, isParts, rfl, unmarked⟩
    obtain ⟨isText, unbroken⟩ := of_sidebarParts isParts
    rw [List.forall_mem_map] at unbroken
    exact ⟨String.toList_injective (isText.trans (toList_sidebarText links).symm),
      fun link member => ⟨unbroken link member, unmarked link member⟩⟩
  · rintro ⟨rfl, plain⟩
    exact ⟨_, sidebarParts_sidebarText.mpr fun link member => (plain link member).1, rfl,
      fun link member => (plain link member).2⟩

/-! ## Links in each other's place -/

/-- A link whose title goes on with what a second one and the line before that look like. -/
def Link.merge (first second : Link) : Link :=
  ⟨first.title ++ "](" ++ first.docName ++ ".md)\n\n- [" ++ second.title, second.docName⟩

/-- The line of such a link is those of both with an empty line between them. -/
theorem Link.line_merge (first second : Link) : (first.merge second).line = first.line ++ "\n\n" ++ second.line := by
  apply String.toList_injective
  simp [Link.line, Link.merge, String.toList_append]

/-- Two neighbouring links have the same sidebar as one with the name of the second in their place. -/
theorem sidebarText_merge (before after : List Link) (first second : Link) :
    sidebarText (before ++ first.merge second :: after) = sidebarText (before ++ first :: second :: after) := by
  have isLine : (first.merge second).line.toList = first.line.toList ++ emptyLine.chars ++ second.line.toList := by
    rw [Link.line_merge, String.toList_append, String.toList_append]
    rfl
  apply String.toList_injective
  rw [toList_sidebarText, toList_sidebarText, List.map_append, List.map_append, List.map_cons, List.map_cons,
    List.map_cons, isLine, Mark.intercalate_joined]

/-- **Reading sidebars.** Of links to documents whose names a batch is given, a sidebar has exactly the lines for parts
when no title holds an empty line, and it is read as the links exactly when all titles are plain. So different lists of
links with plain titles have different sidebars. Titles that are not plain can stand for other links: in place of any two
neighbouring links one with the name of the second can be put, and the sidebar is the same. -/
theorem sidebarText_account {titles : List String} {links : List Link}
    (named : ∀ link ∈ links, link.docName ∈ assignNames titles) :
    (sidebarParts (sidebarText links) = some (links.map fun link => link.line.toList) ↔
        ∀ link ∈ links, ¬ emptyLine.chars <:+: link.title.toList) ∧
      (readSidebar (sidebarText links) = some links ↔ ∀ link ∈ links, IsPlainTitle link.title) ∧
      ((∀ link ∈ links, IsPlainTitle link.title) -> ∀ (otherTitles : List String) (others : List Link),
        (∀ link ∈ others, link.docName ∈ assignNames otherTitles ∧ IsPlainTitle link.title) ->
          sidebarText others = sidebarText links -> others = links) ∧
      (∀ before first second after, links = before ++ first :: second :: after ->
        (first.merge second).docName = second.docName ∧
          sidebarText (before ++ first.merge second :: after) = sidebarText links) := by
  have reads : ∀ {titles : List String} {links : List Link},
      (∀ link ∈ links, link.docName ∈ assignNames titles) ->
        (readSidebar (sidebarText links) = some links ↔ ∀ link ∈ links, IsPlainTitle link.title) := by
    intro titles links named
    rw [readSidebar_eq_some_iff, and_iff_right rfl]
    refine forall₂_congr fun link member => ?_
    rw [Link.emptyLine_infix_line (safe_of_mem_assignNames (named link member))]
    exact ⟨fun ⟨unbroken, unmarked⟩ => ⟨unbroken, unmarked⟩, fun plain => ⟨plain.unbroken, plain.unmarked⟩⟩
  refine ⟨?_, reads named, fun plain otherTitles others areOthers same => ?_, ?_⟩
  · rw [sidebarParts_sidebarText]
    exact forall₂_congr fun link member => not_congr
      (Link.emptyLine_infix_line (safe_of_mem_assignNames (named link member)))
  · have readOthers := (reads fun link member => (areOthers link member).1).mpr fun link member =>
      (areOthers link member).2
    rw [same, (reads named).mpr plain] at readOthers
    exact (Option.some.inj readOthers).symm
  · rintro before first second after rfl
    exact ⟨rfl, sidebarText_merge before after first second⟩

/-- Links to two documents, with titles that hold some of the characters of a mark. -/
def orderLinks : List Link := [⟨"Overview (short)", "Overview"⟩, ⟨"Order [intake]", "OrderIntake"⟩]

/-- The links are read from their sidebar. The sidebar of a single link to the second document is the same if its title
goes on with what a link looks like. -/
theorem orderLinks_read :
    (∀ link ∈ orderLinks, link.docName ∈ assignNames ["Overview", "Order Intake"]) ∧
      readSidebar (sidebarText orderLinks) = some orderLinks ∧
      sidebarText [⟨"Overview (short)](Overview.md)\n\n- [Order [intake]", "OrderIntake"⟩] = sidebarText orderLinks := by
  have named : ∀ link ∈ orderLinks, link.docName ∈ assignNames ["Overview", "Order Intake"] := by decide +kernel
  obtain ⟨-, reads, -, merges⟩ := sidebarText_account named
  refine ⟨named, reads.mpr ?_, (merges [] _ _ [] rfl).2⟩
  simp only [orderLinks, List.forall_mem_cons]
  exact ⟨⟨by decide, by decide⟩, ⟨by decide, by decide⟩, List.forall_mem_nil _⟩

end RepoSurvey.Analysis

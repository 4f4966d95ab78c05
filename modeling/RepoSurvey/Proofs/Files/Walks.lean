import Mathlib.Data.List.Nodup
import Mathlib.Data.Prod.Lex
import Mathlib.Data.String.Basic
import RepoSurvey.Files.Walk
import RepoSurvey.Proofs.Text.Marks

/-!
# Walks

In a tree whose directories hold each name once, an entry is found by its name, so that what it is follows from
its node: a directory and a file are what they are, and a link is what it leads to. A link to a name that is too
long for any entry leads nowhere, and asking for its kind fails (`isOverlong_link`).

A walk meets each entry once (`nodup_visits`), and it meets those that are no directories and are shown in a
directory that is reached without following links (`mem_visits_iff`).
-/

namespace RepoSurvey.Files

/-! ## Sorting -/

/-- What is sorted by a key is in the order of the keys, and what has one key stays in the order in which it was. -/
theorem pairwise_mergeSort_key {α κ : Type} [LinearOrder κ] {key : α -> κ} {le : α -> α -> Bool}
    (ofKey : ∀ first second, le first second = true ↔ key first ≤ key second) {before : α -> α -> Prop}
    {items : List α} (ordered : items.Pairwise before) :
    (items.mergeSort le).Pairwise fun earlier later =>
      key earlier < key later ∨ (key earlier = key later ∧ before earlier later) := by
  have transitive (first second third : α) (isBefore : le first second = true) (isAfter : le second third = true) :
      le first third = true :=
    (ofKey _ _).mpr (((ofKey _ _).mp isBefore).trans ((ofKey _ _).mp isAfter))
  have total (first second : α) : (le first second || le second first) = true := by
    rw [Bool.or_eq_true, ofKey, ofKey]
    exact le_total _ _
  -- The sort is the one of the items with their places, in which places decide between items of one key.
  rw [← List.mergeSort_zipIdx, List.pairwise_map]
  have sorted := List.pairwise_mergeSort (List.zipIdxLE_trans transitive) (List.zipIdxLE_total total) items.zipIdx
  have apart : (items.zipIdx.mergeSort (List.zipIdxLE le)).Pairwise fun earlier later => earlier.2 ≠ later.2 := by
    refine List.pairwise_map.mp (((List.mergeSort_perm _ _).map Prod.snd).nodup_iff.mpr ?_)
    rw [List.zipIdx_map_snd]
    exact List.nodup_range'
  refine (sorted.and apart).imp_of_mem fun {earlier later} isEarlier isLater ⟨inOrder, differ⟩ => ?_
  obtain ⟨inBounds, isEarlier⟩ :=
    List.getElem?_eq_some_iff.mp (List.mem_zipIdx_iff_getElem?.mp (List.mem_mergeSort.mp isEarlier))
  obtain ⟨inBoundsToo, isLater⟩ :=
    List.getElem?_eq_some_iff.mp (List.mem_zipIdx_iff_getElem?.mp (List.mem_mergeSort.mp isLater))
  unfold List.zipIdxLE at inOrder
  split at inOrder
  · next notAfter =>
    rcases ((ofKey _ _).mp notAfter).lt_or_eq with less | same
    · exact .inl less
    · rw [if_pos ((ofKey _ _).mpr same.ge)] at inOrder
      have inTurn := Nat.lt_of_le_of_ne (of_decide_eq_true inOrder) differ
      have isBefore := List.pairwise_iff_getElem.mp ordered _ _ inBounds inBoundsToo inTurn
      rw [isEarlier, isLater] at isBefore
      exact .inr ⟨same, isBefore⟩
  · nomatch inOrder

/-- What is sorted by a key is in the order of the keys. -/
theorem pairwise_mergeSort_le {α κ : Type} [LinearOrder κ] {key : α -> κ} {le : α -> α -> Bool}
    (ofKey : ∀ first second, le first second = true ↔ key first ≤ key second) (items : List α) :
    (items.mergeSort le).Pairwise fun earlier later => key earlier ≤ key later := by
  have unordered : items.Pairwise fun _ _ => True := List.pairwise_of_forall fun _ _ => trivial
  exact (pairwise_mergeSort_key ofKey unordered).imp fun inOrder => inOrder.elim le_of_lt fun same => same.1.le

/-! ## Trees -/

/-- Whether an entry can have a name. -/
structure IsName (name : String) : Prop where
  notIdle : Path.isIdle name = false
  notAbove : name ≠ ".."
  fits : name.utf8ByteSize ≤ nameLimit
  whole : '/' ∉ name.toList

/-- Whether the entries of each directory in a tree have names, no two of them the same one. -/
inductive Node.IsSound : Node -> Prop
  | file (content : ByteArray) : IsSound (.file content)
  | link (target : String) : IsSound (.link target)
  | directory {entries : Entries} (distinct : (entries.map Prod.fst).Nodup)
      (named : ∀ entry ∈ entries, IsName entry.1) (within : ∀ entry ∈ entries, entry.2.IsSound) :
      IsSound (.directory entries)

/-- Whether the tree below a place is sound. -/
def Place.IsSound (place : Place) : Prop := (Node.directory place.entries).IsSound

/-- An entry is found by its name among entries of distinct names. -/
theorem Entries.find?_of_mem {entries : Entries} (distinct : (entries.map Prod.fst).Nodup) {name : String}
    {node : Node} (member : (name, node) ∈ entries) : Entries.find? name entries = some node := by
  induction entries with
  | nil => cases member
  | cons first rest inductionHypothesis =>
    obtain ⟨apart, distinct⟩ := List.nodup_cons.mp distinct
    rcases List.mem_cons.mp member with rfl | later
    · exact if_pos rfl
    · have different : first.1 ≠ name := fun same => apart (same ▸ List.mem_map_of_mem later)
      exact (if_neg different).trans (inductionHypothesis distinct later)

/-! ## Texts without slashes -/

/-- A text without slashes is a single name. -/
theorem splitOn_slash {text : String} (noSlash : '/' ∉ text.toList) : text.splitOn "/" = [text] := by
  rw [Text.splitOn_slash, List.splitOn_eq_singleton noSlash, List.map_singleton, String.ofList_toList]

/-! ## Long names -/

/-- A name of so many letters. -/
def lengthyName (length : Nat) : String := String.ofList (List.replicate length 'x')

/-- No letter is a slash. -/
theorem notMem_lengthyName (length : Nat) : '/' ∉ (lengthyName length).toList := by
  rw [lengthyName, String.toList_ofList]
  exact fun member => absurd (List.eq_of_mem_replicate member) (by decide)

/-- Every letter is a byte. -/
theorem utf8ByteSize_lengthyName (length : Nat) : (lengthyName length).utf8ByteSize = length := by
  rw [lengthyName, String.utf8ByteSize_ofList]
  induction length with
  | zero => rfl
  | succ length inductionHypothesis =>
    rw [List.replicate_succ, String.utf8Len_cons, inductionHypothesis]
    rfl

namespace Place

variable {place : Place} {name target : String}

/-! ## Following a name -/

/-- A single name leads to the entry of that name, or to where it links to. -/
theorem follow_name (isName : IsName name) :
    place.follow [name] =
      match place.entries.find? name with
      | none => .error .absent
      | some (.directory entries) => .ok (.directory (place.inner entries))
      | some (.file content) => .ok (.file content)
      | some (.link target) =>
        match place.links with
        | 0 => .error .loop
        | links + 1 => (place.afterLink target links).follow (target.splitOn "/") := by
  rw [follow, if_neg (by simp [isName.notIdle]), if_neg isName.notAbove, if_neg (Nat.not_lt.mpr isName.fits)]
  cases place.entries.find? name with
  | none => rfl
  | some node =>
    cases node with
    | file content => rfl
    | directory entries => simp only [follow]
    | link target =>
      dsimp only
      split
      · next noneLeft => rw [noneLeft]
      · next links isLeft => rw [isLeft, List.append_nil]

/-- No name that is too long leads anywhere. -/
theorem follow_overlong (tooLong : nameLimit < name.utf8ByteSize) : place.follow [name] = .error .overlong := by
  have notIdle : ¬Path.isIdle name = true := by
    intro isIdle
    rcases Bool.or_eq_true_iff.mp isIdle with isEmpty | isPoint
    · rw [of_decide_eq_true isEmpty] at tooLong
      exact absurd tooLong (by decide)
    · rw [of_decide_eq_true isPoint] at tooLong
      exact absurd tooLong (by decide)
  have notAbove : name ≠ ".." := fun isAbove => absurd (isAbove ▸ tooLong) (by decide)
  rw [follow, if_neg notIdle, if_neg notAbove, if_pos tooLong]

/-- The kind of a link to a name that is too long cannot be told. -/
theorem isOverlong_link (isName : IsName name) (found : place.entries.find? name = some (.link target))
    (someLeft : place.links ≠ 0) (noSlash : '/' ∉ target.toList) (tooLong : nameLimit < target.utf8ByteSize) :
    place.isOverlong (name, .link target) = true := by
  obtain ⟨links, isLeft⟩ := Nat.exists_eq_succ_of_ne_zero someLeft
  have lost : place.follow [name] = .error .overlong := by
    rw [follow_name isName, found, isLeft]
    dsimp only
    rw [splitOn_slash noSlash, follow_overlong tooLong]
  unfold isOverlong
  dsimp only
  rw [lost]

/-! ## Kinds of entries -/

/-- A name of an entry leads to that entry. -/
theorem IsSound.find? (sound : place.IsSound) {node : Node} (member : (name, node) ∈ place.entries) :
    IsName name ∧ place.entries.find? name = some node := by
  cases sound with
  | directory distinct named within => exact ⟨named _ member, Entries.find?_of_mem distinct member⟩

/-- Directories in a sound place are sound places. -/
theorem IsSound.inner (sound : place.IsSound) {entries : Entries}
    (member : (name, .directory entries) ∈ place.entries) : (place.inner entries).IsSound := by
  cases sound with
  | directory distinct named within => exact within _ member

/-- The entries that count as files are those that are no directories. -/
theorem IsSound.isFile_eq (sound : place.IsSound) {entry : String × Node} (member : entry ∈ place.entries) :
    place.isFile entry = !place.isDirectory entry.1 := by
  obtain ⟨name, node⟩ := entry
  obtain ⟨isName, found⟩ := sound.find? member
  cases node with
  | link target => rfl
  | file content | directory entries =>
    unfold isFile isDirectory enter?
    rw [follow_name isName, found]
    rfl

end Place

/-! ## What is reached -/

/-- Whether a walk from a place comes along a path to another one: from each directory it goes on to the directories
in it that are neither hidden nor generated, and it follows no links. -/
inductive Place.Reaches : Place -> List String -> Place -> Prop
  | here (place : Place) : Reaches place [] place
  | within {place last : Place} {name : String} {entries : Entries} {path : List String}
      (member : (name, .directory entries) ∈ place.entries) (entered : isEntered name = true)
      (onward : Reaches (place.inner entries) path last) : Reaches place (name :: path) last

/-- Whether a visit is to an entry of a directory that is neither hidden nor a directory, links followed. -/
structure Place.Shows (place : Place) (visit : Visit) : Prop where
  member : visit.name ∈ place.entries.map Prod.fst
  notHidden : isHidden visit.name = false
  notDirectory : place.isDirectory visit.name = false
  content : visit.content = place.content? visit.name

/-- What tells visits apart: where they are, and the name that is visited there. -/
def Visit.key (visit : Visit) : List String × String := (visit.directories, visit.name)

/-! ## Walks -/

variable {links : Nat} {above : List Entries} {path : List String} {entries : Entries} {visit : Visit}

/-- Sorting by name only puts entries in another order. -/
theorem sortByName_perm {α : Type} (named : List (String × α)) : (sortByName named).Perm named :=
  List.mergeSort_perm _ _

/-- The files visited in a sound place itself are those that it shows. -/
theorem Place.mem_ownVisits {place : Place} (sound : place.IsSound) :
    visit ∈ place.ownVisits path ↔ visit.directories = path ∧ place.Shows visit := by
  unfold ownVisits
  simp only [List.mem_map, (sortByName_perm _).mem_iff, List.mem_filter, Bool.and_eq_true, Bool.not_eq_true']
  constructor
  · rintro ⟨entry, ⟨member, notHidden, isFile⟩, rfl⟩
    rw [sound.isFile_eq member, Bool.not_eq_true'] at isFile
    exact ⟨rfl, List.mem_map_of_mem member, notHidden, isFile, rfl⟩
  · rintro ⟨rfl, member, notHidden, notDirectory, content⟩
    obtain ⟨entry, member, isName⟩ := List.mem_map.mp member
    rw [← isName] at notHidden notDirectory
    refine ⟨entry, ⟨member, notHidden, ?_⟩, ?_⟩
    · rw [sound.isFile_eq member, notDirectory]
      rfl
    · rw [isName, ← content]

/-- The branch of an entry, if it is a directory that is entered. -/
def branch? (links : Nat) (above : List Entries) (path : List String) (entry : String × Node) :
    Option (String × List Visit) :=
  match entry.2 with
  | .directory inner =>
    if isEntered entry.1 then some (entry.1, Node.visits links above (path ++ [entry.1]) (.directory inner)) else none
  | .file _ | .link _ => none

/-- The branches of entries are those of each. -/
theorem branches_eq (links : Nat) (above : List Entries) (path : List String) (entries : Entries) :
    branches links above path entries = entries.filterMap (branch? links above path) := by
  induction entries with
  | nil => rw [branches, List.filterMap_nil]
  | cons entry rest inductionHypothesis =>
    obtain ⟨name, node⟩ := entry
    cases node with
    | file content | link target => rw [branches, inductionHypothesis, List.filterMap_cons_none rfl]
    | directory inner =>
      rw [branches]
      by_cases entered : isEntered name = true
      · have isBranch : branch? links above path (name, .directory inner) =
            some (name, Node.visits links above (path ++ [name]) (.directory inner)) := if_pos entered
        rw [if_pos entered, inductionHypothesis, List.filterMap_cons_some isBranch]
      · have noBranch : branch? links above path (name, .directory inner) = none := if_neg entered
        rw [if_neg entered, inductionHypothesis, List.filterMap_cons_none noBranch]

/-- Each directory that is entered has a branch under its name. -/
theorem mem_branches {branch : String × List Visit} :
    branch ∈ branches links above path entries ↔ ∃ inner, (branch.1, .directory inner) ∈ entries ∧
      isEntered branch.1 = true ∧ branch.2 = Node.visits links above (path ++ [branch.1]) (.directory inner) := by
  rw [branches_eq, List.mem_filterMap]
  constructor
  · rintro ⟨⟨name, node⟩, member, isBranch⟩
    cases node with
    | file content | link target => nomatch isBranch
    | directory inner =>
      obtain ⟨entered, isBranch⟩ := Option.ite_none_right_eq_some.mp isBranch
      obtain rfl := Option.some.inj isBranch
      exact ⟨inner, member, entered, rfl⟩
  · rintro ⟨inner, member, entered, isVisits⟩
    refine ⟨_, member, Option.ite_none_right_eq_some.mpr ⟨entered, ?_⟩⟩
    rw [← isVisits]

/-- The files visited from a directory on are its own and those of its branches. -/
theorem mem_visits_directory :
    visit ∈ Node.visits links above path (.directory entries) ↔
      visit ∈ (⟨entries, above, links⟩ : Place).ownVisits path ∨
        ∃ name inner, (name, .directory inner) ∈ entries ∧ isEntered name = true ∧
          visit ∈ Node.visits links (entries :: above) (path ++ [name]) (.directory inner) := by
  rw [Node.visits, List.mem_append, List.mem_flatMap]
  refine or_congr_right ?_
  simp only [(sortByName_perm _).mem_iff, mem_branches]
  constructor
  · rintro ⟨branch, ⟨inner, member, entered, isVisits⟩, visited⟩
    exact ⟨_, inner, member, entered, isVisits ▸ visited⟩
  · rintro ⟨name, inner, member, entered, visited⟩
    exact ⟨(name, _), ⟨inner, member, entered, rfl⟩, visited⟩

/-- The files visited from a node on are those that are shown in the directories reached from it. -/
theorem mem_nodeVisits {node : Node} (sound : node.IsSound) :
    visit ∈ node.visits links above path ↔ ∃ entries inner last, node = .directory entries ∧
      (⟨entries, above, links⟩ : Place).Reaches inner last ∧ visit.directories = path ++ inner ∧
        last.Shows visit := by
  induction sound generalizing above path with
  | file content | link target => simp [Node.visits]
  | @directory entries distinct named within inductionHypothesis =>
    have isSound : (⟨entries, above, links⟩ : Place).IsSound := .directory distinct named within
    rw [mem_visits_directory, Place.mem_ownVisits isSound]
    constructor
    · rintro (⟨isHere, shows⟩ | ⟨name, inner, member, entered, visited⟩)
      · exact ⟨entries, [], _, rfl, .here _, isHere.trans (List.append_nil _).symm, shows⟩
      · obtain ⟨_, onward, last, isNode, reaches, isThere, shows⟩ := (inductionHypothesis _ member).mp visited
        obtain rfl := Node.directory.inj isNode
        rw [List.append_assoc] at isThere
        exact ⟨entries, name :: onward, last, rfl, .within member entered reaches, isThere, shows⟩
    · rintro ⟨_, inner, last, isNode, reaches, isThere, shows⟩
      obtain rfl := Node.directory.inj isNode
      cases reaches with
      | here => exact .inl ⟨isThere.trans (List.append_nil _), shows⟩
      | @within _ _ name deeper onward member entered reaches =>
        refine .inr ⟨name, deeper, member, entered, (inductionHypothesis _ member).mpr ?_⟩
        exact ⟨deeper, onward, last, rfl, reaches, by rw [isThere, List.append_assoc]; rfl, shows⟩

/-- Files visited from a node on are below the path to it. -/
theorem prefix_of_mem_nodeVisits {node : Node} (sound : node.IsSound) (visited : visit ∈ node.visits links above path) :
    path <+: visit.directories := by
  obtain ⟨-, inner, -, -, -, isThere, -⟩ := (mem_nodeVisits sound).mp visited
  exact ⟨inner, isThere.symm⟩

/-- The files visited in a place itself have keys of their own. -/
theorem Place.nodup_ownVisits {place : Place} (distinct : (place.entries.map Prod.fst).Nodup) :
    ((place.ownVisits path).map Visit.key).Nodup := by
  refine List.Nodup.of_map Prod.snd ?_
  unfold ownVisits
  rw [List.map_map, List.map_map]
  refine ((sortByName_perm _).map Prod.fst).nodup_iff.mpr ?_
  exact distinct.sublist (List.filter_sublist.map _)

/-- A branch has the name of its entry. -/
theorem name_branch? {entry : String × Node} {branch : String × List Visit}
    (isBranch : branch? links above path entry = some branch) : branch.1 = entry.1 := by
  obtain ⟨name, node⟩ := entry
  cases node with
  | file content | link target => nomatch isBranch
  | directory inner =>
    obtain ⟨-, isBranch⟩ := Option.ite_none_right_eq_some.mp isBranch
    rw [← Option.some.inj isBranch]

/-- The names of branches are among those of the entries. -/
theorem names_branches_sublist (links : Nat) (above : List Entries) (path : List String) (entries : Entries) :
    ((branches links above path entries).map Prod.fst).Sublist (entries.map Prod.fst) := by
  rw [branches_eq]
  induction entries with
  | nil => exact .slnil
  | cons entry rest inductionHypothesis =>
    cases isBranch : branch? links above path entry with
    | none =>
      rw [List.filterMap_cons_none isBranch, List.map_cons]
      exact inductionHypothesis.cons _
    | some branch =>
      rw [List.filterMap_cons_some isBranch, List.map_cons, List.map_cons, name_branch? isBranch]
      exact inductionHypothesis.cons_cons _

/-- No visit has the key of another one. -/
theorem nodup_nodeVisits {node : Node} (sound : node.IsSound) :
    ((node.visits links above path).map Visit.key).Nodup := by
  induction sound generalizing above path with
  | file content | link target => simp [Node.visits]
  | @directory entries distinct named within inductionHypothesis =>
    have below : ∀ branch ∈ branches links (entries :: above) path entries, (branch.2.map Visit.key).Nodup ∧
        ∀ key ∈ branch.2.map Visit.key, path ++ [branch.1] <+: key.1 := by
      intro branch isBranch
      obtain ⟨inner, member, -, isVisits⟩ := mem_branches.mp isBranch
      rw [isVisits]
      refine ⟨inductionHypothesis _ member, List.forall_mem_map.mpr fun visit visited => ?_⟩
      exact prefix_of_mem_nodeVisits (within _ member) visited
    have apart : ((branches links (entries :: above) path entries).map Prod.fst).Nodup :=
      distinct.sublist (names_branches_sublist links (entries :: above) path entries)
    have ofBranches : ((branches links (entries :: above) path entries).flatMap fun branch =>
        branch.2.map Visit.key).Nodup := by
      refine List.nodup_flatMap.mpr ⟨fun branch isBranch => (below branch isBranch).1, ?_⟩
      refine (List.pairwise_map.mp apart).imp_of_mem fun isFirst isSecond differ => ?_
      intro key ofFirst ofSecond
      -- Two names at one depth of one path are the same.
      have alike := List.prefix_of_prefix_length_le ((below _ isFirst).2 key ofFirst)
        ((below _ isSecond).2 key ofSecond) (by simp)
      have same := alike.eq_of_length (by simp)
      exact differ (List.singleton_inj.mp (List.append_cancel_left same))
    rw [Node.visits, List.map_append, List.map_flatMap, List.nodup_append]
    refine ⟨Place.nodup_ownVisits distinct, ?_, ?_⟩
    · exact ((sortByName_perm _).flatMap_right _).nodup_iff.mpr ofBranches
    · intro own isOwn key isBelow same
      obtain ⟨branch, isBranch, isBelow⟩ := List.mem_flatMap.mp isBelow
      have deeper := (below branch ((sortByName_perm _).mem_iff.mp isBranch)).2 key isBelow
      obtain ⟨visit, visited, rfl⟩ := List.mem_map.mp isOwn
      have isHere := ((Place.mem_ownVisits (.directory distinct named within)).mp visited).1
      rw [← same, Visit.key, isHere] at deeper
      exact absurd deeper.length_le (by simp)

/-! ## Walks over checkouts -/

/-- Whether the directory of a checkout, if it is one, is sound. -/
def Checkout.IsSound (checkout : Checkout) : Prop := ∀ place, checkout.directory? = some place -> place.IsSound

/-- A walk over a checkout visits the files that are shown in the directories reached from its root. -/
theorem Checkout.mem_visits_iff {checkout : Checkout} (sound : checkout.IsSound) :
    visit ∈ checkout.visits ↔ ∃ place last, checkout.directory? = some place ∧
      place.Reaches visit.directories last ∧ last.Shows visit := by
  unfold visits
  cases found : checkout.directory? with
  | none => simp
  | some place =>
    rw [Option.map_some, Option.getD_some, Place.visits, mem_nodeVisits (sound place found)]
    constructor
    · rintro ⟨_, inner, last, isNode, reaches, isThere, shows⟩
      obtain rfl := Node.directory.inj isNode
      rw [List.nil_append] at isThere
      exact ⟨place, last, rfl, isThere ▸ reaches, shows⟩
    · rintro ⟨_, last, isFound, reaches, shows⟩
      obtain rfl := Option.some.inj isFound
      exact ⟨_, _, last, rfl, reaches, rfl, shows⟩

/-- Every directory on the way to a reached place has a name, and that place is sound as well. -/
theorem Place.Reaches.named {place last : Place} (reaches : place.Reaches path last) (sound : place.IsSound) :
    (∀ name ∈ path, IsName name) ∧ last.IsSound := by
  induction reaches with
  | here => exact ⟨List.forall_mem_nil _, sound⟩
  | within member entered onward inductionHypothesis =>
    obtain ⟨named, isSound⟩ := inductionHypothesis (sound.inner member)
    exact ⟨List.forall_mem_cons.mpr ⟨(sound.find? member).1, named⟩, isSound⟩

/-- Every directory on the way to a visited file has a name, and so has the file. -/
theorem Checkout.named_of_mem_visits {checkout : Checkout} (sound : checkout.IsSound)
    (visited : visit ∈ checkout.visits) : ∀ name ∈ visit.directories ++ [visit.name], IsName name := by
  obtain ⟨place, last, found, reaches, shows⟩ := (mem_visits_iff sound).mp visited
  obtain ⟨named, isSound⟩ := reaches.named (sound place found)
  obtain ⟨entry, member, isEntry⟩ := List.mem_map.mp shows.member
  refine List.forall_mem_append.mpr ⟨named, List.forall_mem_singleton.mpr ?_⟩
  rw [← isEntry]
  exact (isSound.find? member).1

/-- A walk over a checkout visits every file once. -/
theorem Checkout.nodup_visits {checkout : Checkout} (sound : checkout.IsSound) :
    (checkout.visits.map Visit.key).Nodup := by
  unfold visits
  cases found : checkout.directory? with
  | none => exact List.nodup_nil
  | some place => exact nodup_nodeVisits (sound place found)

end RepoSurvey.Files

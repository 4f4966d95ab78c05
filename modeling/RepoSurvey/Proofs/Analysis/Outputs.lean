import RepoSurvey.Analysis.Run
import RepoSurvey.Proofs.Schema.Carrying

/-!
# What stages put out

Overviews, dependency graphs, tasks and features are written in several forms: with all fields under their own names
into the cache, and without the absent ones under exchanged names into later prompts. Whatever data they were read
from, they come back the same from all of these, but for numbers in the evidence of features that are not finite: null
stands for them in every form. This is `outputs_comeBack`.
-/

namespace RepoSurvey.Analysis

open Json (IsReadable IsStructural)
open Schema
open Schema.Part (carries_integerField carries_listField carries_named carries_optionField carries_textField
  carries_textsField took_of_listField took_of_named took_of_optionField)

variable {holds : Json -> Prop}

/-! ## Overviews -/

section Overviews

variable (structural : IsStructural holds)

include structural

/-- Module roles are carried. -/
theorem carries_moduleRole (role : ModuleRole) : ModuleRole.codec.Carries holds role :=
  Codec.carries_record structural
    ((carries_textField structural).map ModuleRole.mk |>.seq (carries_textField structural) (by decide)
      |>.seq (carries_textsField structural) (by decide))

/-- Evidence is carried. -/
theorem carries_evidence (evidence : Evidence) : Evidence.codec.Carries holds evidence := by
  cases evidence with
  | one text => exact ⟨fun _ => rfl, fun _ => structural.text text⟩
  | many texts =>
    have carries : (Codec.list .text).Carries holds texts :=
      Codec.carries_list structural fun text _ => Codec.carries_text structural text
    refine ⟨fun form => ?_, carries.written⟩
    have read := carries.read form
    simp only [Evidence.codec, read]
    rfl

/-- Techniques are carried. -/
theorem carries_technique (technique : Technique) : Technique.codec.Carries holds technique := by
  have present : ∀ form, Evidence.codec.write form technique.evidence ≠ .null := by
    intro form
    cases technique.evidence <;> exact Json.noConfusion
  exact Codec.carries_record structural
    ((carries_textField structural).map Technique.mk |>.seq (carries_textField structural) (by decide)
      |>.seq (carries_named (carries_evidence structural _) fun form isNull => absurd isNull (present form))
        (by decide))

/-- Entry candidates are carried. -/
theorem carries_entryCandidate (candidate : EntryCandidate) : EntryCandidate.codec.Carries holds candidate :=
  Codec.carries_record structural
    ((carries_textField structural).map EntryCandidate.mk |>.seq (carries_textField structural) (by decide))

/-- Overviews are carried. -/
theorem carries_overview (overview : Overview) : Overview.codec.Carries holds overview :=
  Codec.carries_record structural
    ((carries_listField structural fun role _ => carries_moduleRole structural role).map Overview.mk
      |>.seq (carries_listField structural fun technique _ => carries_technique structural technique) (by decide)
      |>.seq (carries_listField structural fun candidate _ => carries_entryCandidate structural candidate) (by decide)
      |>.seq (carries_textsField structural) (by decide))

end Overviews

/-! ## Dependency graphs -/

/-- Whether the integers of a dependency graph are data of a kind. -/
structure Graph.IsOf (holds : Json -> Prop) (graph : Graph) : Prop where
  lines : ∀ edge ∈ graph.calls, ∀ line ∈ edge.line, holds (.int line)
  fans : ∀ hotspot ∈ graph.hotspots, holds (.int hotspot.fanIn) ∧ holds (.int hotspot.fanOut)

section Graphs

variable (structural : IsStructural holds)

include structural

/-- Module edges are carried. -/
theorem carries_moduleEdge (edge : ModuleEdge) : ModuleEdge.codec.Carries holds edge :=
  Codec.carries_record structural
    ((carries_textField structural).map ModuleEdge.mk |>.seq (carries_textField structural) (by decide)
      |>.seq (carries_textField structural) (by decide))

/-- Call edges are carried when their lines are of the kind. -/
theorem carries_callEdge {edge : CallEdge} (line : ∀ line ∈ edge.line, holds (.int line)) :
    CallEdge.codec.Carries holds edge :=
  Codec.carries_record structural
    ((carries_textField structural).map CallEdge.mk |>.seq (carries_textField structural) (by decide)
      |>.seq (carries_textField structural) (by decide)
      |>.seq (carries_optionField structural (fun found isLine => Codec.carries_integer (line found isLine))
        fun _ _ _ => Json.noConfusion) (by decide))

/-- Hotspots are carried when their numbers are of the kind. -/
theorem carries_hotspot {hotspot : Hotspot} (fanIn : holds (.int hotspot.fanIn))
    (fanOut : holds (.int hotspot.fanOut)) : Hotspot.codec.Carries holds hotspot :=
  Codec.carries_record structural
    ((carries_textField structural).map Hotspot.mk |>.seq (carries_integerField fanIn) (by decide)
      |>.seq (carries_integerField fanOut) (by decide) |>.seq (carries_textsField structural) (by decide))

/-- Drawings are carried. -/
theorem carries_drawing (drawing : Drawing) : Drawing.codec.Carries holds drawing :=
  Codec.carries_record structural
    ((carries_textField structural).map Drawing.mk |>.seq (carries_textField structural) (by decide))

/-- Dependency graphs are carried when their integers are of the kind. -/
theorem carries_graph {graph : Graph} (of : graph.IsOf holds) : Graph.codec.Carries holds graph :=
  Codec.carries_record structural
    ((carries_listField structural fun edge _ => carries_moduleEdge structural edge).map Graph.mk
      |>.seq (carries_listField structural fun edge member => carries_callEdge structural (of.lines edge member))
        (by decide)
      |>.seq (carries_listField structural fun hotspot member =>
        carries_hotspot structural (of.fans hotspot member).1 (of.fans hotspot member).2) (by decide)
      |>.seq (carries_optionField structural (fun drawing _ => carries_drawing structural drawing)
        fun _ _ _ => Json.noConfusion) (by decide))

/-- The line of a call edge was taken from data of the kind that the edge was taken from. -/
theorem took_line {edge : CallEdge} (took : CallEdge.codec.Took holds edge) :
    ∀ line ∈ edge.line, Codec.integer.Took holds line := by
  obtain ⟨members, kinds, read⟩ := took.members structural
  simp only [Part.read_seq_eq_valid, Part.read_map_eq_valid] at read
  obtain ⟨_, line, ⟨_, _, ⟨_, _, ⟨_, -, rfl⟩, -, rfl⟩, -, rfl⟩, lineRead, rfl⟩ := read
  exact took_of_optionField kinds lineRead

/-- Integers that a hotspot has were taken from such data, or are zero. -/
theorem took_fans {hotspot : Hotspot} (took : Hotspot.codec.Took holds hotspot) :
    (Codec.integer.Took holds hotspot.fanIn ∨ some 0 = some hotspot.fanIn) ∧
      (Codec.integer.Took holds hotspot.fanOut ∨ some 0 = some hotspot.fanOut) := by
  obtain ⟨members, kinds, read⟩ := took.members structural
  simp only [Part.read_seq_eq_valid, Part.read_map_eq_valid] at read
  obtain ⟨_, _, ⟨_, fanOut, ⟨_, fanIn, ⟨_, -, rfl⟩, fanInRead, rfl⟩, fanOutRead, rfl⟩, -, rfl⟩ := read
  exact ⟨took_of_named kinds fanInRead, took_of_named kinds fanOutRead⟩

/-- The call edges and hotspots of a dependency graph were taken from such data. -/
theorem took_graph {graph : Graph} (took : Graph.codec.Took holds graph) :
    (∀ edge ∈ graph.calls, CallEdge.codec.Took holds edge) ∧
      ∀ hotspot ∈ graph.hotspots, Hotspot.codec.Took holds hotspot := by
  obtain ⟨members, kinds, read⟩ := took.members structural
  simp only [Part.read_seq_eq_valid, Part.read_map_eq_valid] at read
  obtain ⟨_, _, ⟨_, hotspots, ⟨_, calls, ⟨_, -, rfl⟩, callsRead, rfl⟩, hotspotsRead, rfl⟩, -, rfl⟩ := read
  exact ⟨took_of_listField structural kinds callsRead, took_of_listField structural kinds hotspotsRead⟩

end Graphs

/-- The integers of a dependency graph that was read from readable data are readable. -/
theorem isOf_of_tookGraph {graph : Graph} (took : Graph.codec.Took IsReadable graph) : graph.IsOf IsReadable := by
  have readable : ∀ {value : Int}, Codec.integer.Took IsReadable value ∨ some 0 = some value ->
      (Json.int value).IsReadable := by
    rintro value (took | isZero)
    · exact ⟨trivial, took.fits⟩
    · obtain rfl := Option.some.inj isZero
      exact ⟨trivial, Json.integerFits_of_lt 1 (by decide) (by decide)⟩
  obtain ⟨calls, hotspots⟩ := took_graph Json.isStructural_isReadable took
  constructor
  · intro edge member line isLine
    exact readable (.inl (took_line Json.isStructural_isReadable (calls edge member) line isLine))
  · intro hotspot member
    obtain ⟨fanIn, fanOut⟩ := took_fans Json.isStructural_isReadable (hotspots hotspot member)
    exact ⟨readable fanIn, readable fanOut⟩

/-! ## Tasks -/

/-- Tasks are carried. -/
theorem carries_task (structural : IsStructural holds) (task : DocumentTask) :
    DocumentTask.codec.Carries holds task :=
  Codec.carries_record structural
    ((carries_textField structural).map DocumentTask.mk |>.seq (carries_textField structural) (by decide)
      |>.seq (carries_textField structural) (by decide) |>.seq (carries_textField structural) (by decide)
      |>.seq (carries_optionField structural (fun text _ => Codec.carries_text structural text)
        fun _ _ _ => Json.noConfusion) (by decide))

/-! ## Features -/

/-- Whether importance that is a score is in canonical form. -/
def Importance.IsCanonical : Importance -> Prop
  | .score value => value.IsCanonical
  | .word _ => True

/-- Whether the importance of a feature is in canonical form and its evidence is data of a kind. -/
structure Feature.IsOf (holds : Json -> Prop) (feature : Feature) : Prop where
  importance : ∀ importance ∈ feature.importance, importance.IsCanonical
  evidence : ∀ value ∈ feature.evidence, holds value

/-- Whether the evidence for a feature holds finite numbers only. -/
def Feature.IsFinite (feature : Feature) : Prop := ∀ value ∈ feature.evidence, value.isFinite = true

/-- A feature with null in its evidence in place of numbers that are not finite. -/
def Feature.plain (feature : Feature) : Feature := { feature with evidence := feature.evidence.map Json.finite }

/-- Features with null in their evidence in place of such numbers. -/
def Features.plain (features : Features) : Features := { features with features := features.features.map Feature.plain }

section FeaturesOf

variable (structural : IsStructural holds)

include structural

/-- Importance is carried. -/
theorem carries_importance {importance : Importance} (canonical : importance.IsCanonical) :
    Importance.codec.Carries holds importance := by
  cases importance with
  | score value => exact ⟨fun _ => rfl, (Codec.carries_number structural canonical).written⟩
  | word text => exact ⟨fun _ => rfl, fun _ => structural.text text⟩

/-- Importance that is taken from data of a kind is in canonical form. -/
theorem isCanonical_importance {importance : Importance} (took : Importance.codec.Took holds importance) :
    importance.IsCanonical := by
  obtain ⟨value, kind, read⟩ := took
  simp only [Importance.codec] at read
  split at read
  · exact Checked.valid.inj read ▸ trivial
  · next isNumber _ => exact Checked.valid.inj read ▸ Codec.Took.isCanonical structural ⟨value, kind, isNumber⟩
  · nomatch read

/-- A feature is carried when its evidence is finite. -/
theorem carries_feature {feature : Feature} (of : feature.IsOf holds) (finite : feature.IsFinite) :
    Feature.codec.Carries holds feature := by
  have present : ∀ importance ∈ feature.importance, ∀ form, Importance.codec.write form importance ≠ .null := by
    intro importance _ form
    cases importance <;> exact Json.noConfusion
  exact Codec.carries_record structural
    ((carries_textField structural).map Feature.mk |>.seq (carries_textField structural) (by decide)
      |>.seq (carries_textField structural) (by decide)
      |>.seq (carries_optionField structural (fun importance member =>
        carries_importance structural (of.importance importance member)) present) (by decide)
      |>.seq (carries_listField structural fun value member =>
        Codec.carries_any (of.evidence value member) (finite value member)) (by decide)
      |>.seq (carries_textsField structural) (by decide) |>.seq (carries_textsField structural) (by decide)
      |>.seq (carries_textsField structural) (by decide))

/-- A feature that was taken from data of a kind is of the kind. -/
theorem isOf_of_tookFeature {feature : Feature} (took : Feature.codec.Took holds feature) : feature.IsOf holds := by
  obtain ⟨members, kinds, read⟩ := took.members structural
  simp only [Part.read_seq_eq_valid, Part.read_map_eq_valid] at read
  obtain ⟨_, _, ⟨_, _, ⟨_, _, ⟨_, evidence, ⟨_, importance, ⟨_, _, ⟨_, _, ⟨_, -, rfl⟩, -, rfl⟩, -, rfl⟩,
    importanceRead, rfl⟩, evidenceRead, rfl⟩, -, rfl⟩, -, rfl⟩, -, rfl⟩ := read
  constructor
  · intro held isHeld
    exact isCanonical_importance structural (took_of_optionField kinds importanceRead held isHeld)
  · intro value member
    obtain ⟨found, kind, read⟩ := took_of_listField structural kinds evidenceRead value member
    exact Checked.valid.inj read ▸ kind

/-- Features that were taken from data of a kind are of the kind. -/
theorem isOf_of_tookFeatures {features : Features} (took : Features.codec.Took holds features) :
    ∀ feature ∈ features.features, feature.IsOf holds := by
  obtain ⟨members, kinds, read⟩ := took.members structural
  simp only [Part.read_seq_eq_valid, Part.read_map_eq_valid] at read
  obtain ⟨_, _, ⟨_, listRead, rfl⟩, -, rfl⟩ := read
  exact fun feature member =>
    isOf_of_tookFeature structural (took_of_listField structural kinds listRead feature member)

/-- Features are carried with null in place of numbers in their evidence that are not finite. -/
theorem carries_plain {features : Features} (of : ∀ feature ∈ features.features, feature.IsOf holds) :
    Features.codec.Carries holds features.plain := by
  refine Codec.carries_record structural ((carries_listField structural fun feature member => ?_).map Features.mk
    |>.seq (carries_textField structural) (by decide))
  obtain ⟨found, isOne, rfl⟩ := List.mem_map.mp member
  apply carries_feature structural
  · refine ⟨(of found isOne).importance, fun value member => ?_⟩
    obtain ⟨kept, isKept, rfl⟩ := List.mem_map.mp member
    exact structural.finite kept ((of found isOne).evidence kept isKept)
  · intro value member
    obtain ⟨kept, -, rfl⟩ := List.mem_map.mp member
    exact Json.isFinite_finite kept

end FeaturesOf

/-- Of a feature, nothing but its plain evidence is written. -/
theorem Feature.write_plain (form : Form) (feature : Feature) :
    Feature.codec.write form feature.plain = Feature.codec.write form feature := by
  have evidence : (Codec.list .any).write form feature.plain.evidence =
      (Codec.list .any).write form feature.evidence :=
    Codec.write_list_map fun value => Json.finite_of_isFinite _ (Json.isFinite_finite value)
  simp only [Feature.codec, Codec.record, Part.write_seq, Part.write_map, Part.exchanged,
    Part.write_named_congr evidence]
  rfl

/-- Of features, nothing but their plain evidence is written. -/
theorem Features.write_plain (form : Form) (features : Features) :
    Features.codec.write form features.plain = Features.codec.write form features := by
  have list : (Codec.list Feature.codec).write form features.plain.features =
      (Codec.list Feature.codec).write form features.features :=
    Codec.write_list_map (Feature.write_plain form)
  simp only [Features.codec, Codec.record, Part.write_seq, Part.write_map, Part.exchanged, Part.write_named_congr list]
  rfl

/-- A feature is plain when its evidence is finite, and only then. -/
theorem Feature.plain_eq_self_iff {feature : Feature} : feature.plain = feature ↔ feature.IsFinite := by
  constructor
  · intro same value member
    rw [← same] at member
    obtain ⟨kept, -, rfl⟩ := List.mem_map.mp member
    exact Json.isFinite_finite kept
  · intro finite
    have evidence : feature.evidence.map Json.finite = feature.evidence :=
      (List.map_congr_left fun value member => Json.finite_of_isFinite value (finite value member)).trans
        (List.map_id _)
    rw [plain, evidence]

/-- Features are plain when all their evidence is finite, and only then. -/
theorem Features.plain_eq_self_iff {features : Features} :
    features.plain = features ↔ ∀ feature ∈ features.features, feature.IsFinite := by
  constructor
  · intro same feature member
    have plain : feature.plain = feature :=
      List.map_inj_left.mp ((congrArg Features.features same).trans (List.map_id _).symm) feature member
    exact Feature.plain_eq_self_iff.mp plain
  · intro finite
    have list : features.features.map Feature.plain = features.features :=
      (List.map_congr_left fun feature member => Feature.plain_eq_self_iff.mpr (finite feature member)).trans
        (List.map_id _)
    rw [plain, list]

/-- Sound features are written as a sound value. -/
theorem writesSound_features {features : Features} (sound : ∀ feature ∈ features.features, feature.IsOf Json.Sound) :
    Features.codec.WritesSound features := by
  have carries := carries_plain Json.isStructural_sound sound
  unfold Codec.WritesSound
  rw [← Features.write_plain]
  exact carries.writesSound

/-- Sound features are read back when all evidence is finite, and only then. -/
theorem restores_features_iff {features : Features}
    (sound : ∀ feature ∈ features.features, feature.IsOf Json.Sound) :
    Features.codec.Restores features ↔ ∀ feature ∈ features.features, feature.IsFinite := by
  have carries := carries_plain Json.isStructural_sound sound
  unfold Codec.Restores
  rw [← Features.write_plain, carries.read, Checked.valid.injEq, Features.plain_eq_self_iff]

/-! ## All outputs -/

/-- Whether a record comes back as some record: from what is written of it in any form, and from the text of that in
any style, which is read as what was written. -/
structure ComesBack {α : Type} (codec : Codec α) (found back : α) : Prop where
  read : ∀ form, codec.read (codec.write form found) = .valid back
  parsed : ∀ form style,
    Reply.parseObject (Json.text style (codec.write form found)) = .ok (codec.write form found)
  prompted : ∃ value, Reply.parseObject (Running.prompted codec found) = .ok value ∧ codec.read value = .valid back

/-- A record that is written as one that is carried comes back as that one. -/
theorem comesBack_of_carries {ρ : Type} {name : String} {parts : Part ρ ρ} {found back : ρ}
    (carries : (Codec.record name parts).Carries IsReadable back)
    (same : ∀ form, (Codec.record name parts).write form back = (Codec.record name parts).write form found) :
    ComesBack (Codec.record name parts) found back := by
  have read : ∀ form, (Codec.record name parts).read ((Codec.record name parts).write form found) = .valid back :=
    fun form => same form ▸ carries.read form
  have parsed : ∀ form style, Reply.parseObject (Json.text style ((Codec.record name parts).write form found)) =
      .ok ((Codec.record name parts).write form found) :=
    fun form style => same form ▸ carries.parseObject form style
  exact ⟨read, parsed, _, parsed .prompted .indented, read .prompted⟩

/-- Features that were read from readable data come back plain. -/
theorem comesBack_features {features : Features} (took : Features.codec.Took IsReadable features) :
    ComesBack Features.codec features features.plain := by
  have of := isOf_of_tookFeatures Json.isStructural_isReadable took
  exact comesBack_of_carries (carries_plain Json.isStructural_isReadable of) fun form =>
    Features.write_plain form features

/-- **Outputs come back.** Whatever text data was read from, an overview, a dependency graph or a task that is read from
the data comes back the same, from the cache and from prompts. Features come back with null in place of numbers in
their evidence that are not finite, and so the same just when there are none. -/
theorem outputs_comeBack {text : List Char} {value : Json} (read : Json.readAll text = .ok value) :
    (∀ overview, Overview.codec.read value = .valid overview -> ComesBack Overview.codec overview overview) ∧
      (∀ graph, Graph.codec.read value = .valid graph -> ComesBack Graph.codec graph graph) ∧
      (∀ task, DocumentTask.codec.read value = .valid task -> ComesBack DocumentTask.codec task task) ∧
      ∀ features, Features.codec.read value = .valid features ->
        ComesBack Features.codec features features.plain ∧
          (features.plain = features ↔ ∀ feature ∈ features.features, feature.IsFinite) := by
  have readable := Json.isReadable_readAll read
  have structural := Json.isStructural_isReadable
  refine ⟨fun overview _ => ?_, fun graph graphRead => ?_, fun task _ => ?_, fun features featuresRead => ?_⟩
  · exact comesBack_of_carries (carries_overview structural overview) fun _ => rfl
  · exact comesBack_of_carries (carries_graph structural (isOf_of_tookGraph ⟨value, readable, graphRead⟩)) fun _ => rfl
  · exact comesBack_of_carries (carries_task structural task) fun _ => rfl
  · exact ⟨comesBack_features ⟨value, readable, featuresRead⟩, Features.plain_eq_self_iff⟩

/-- A text with a number that stands where any value may. -/
def evidenceText (numeral : String) : String :=
  "\x7b\"title\": \"A\", \"features\": [\x7b\"id\": \"F1\", \"name\": \"A\", \"evidence\": [" ++ numeral ++ "]\x7d]\x7d"

/-- What such a text is read as. -/
def evidenceValue (number : Number.Binary64) : Json :=
  .obj [("title", .str "A"),
    ("features", .arr [.obj [("id", .str "F1"), ("name", .str "A"), ("evidence", .arr [.float number])]])]

/-- The features in it. -/
def evidenceFeatures (number : Number.Binary64) : Features :=
  ⟨[⟨"F1", "A", "", none, [.float number], [], [], []⟩], ""⟩

/-- A text that can be read as any of the outputs, with a finite number, comes back as each of them. -/
theorem finiteEvidence_comesBack : ∃ value, Json.readAll (evidenceText "0.5").toList = .ok value ∧
    (∃ overview, Overview.codec.read value = .valid overview ∧ ComesBack Overview.codec overview overview) ∧
    (∃ graph, Graph.codec.read value = .valid graph ∧ ComesBack Graph.codec graph graph) ∧
    (∃ task, DocumentTask.codec.read value = .valid task ∧ ComesBack DocumentTask.codec task task) ∧
    ∃ features, Features.codec.read value = .valid features ∧ ComesBack Features.codec features features := by
  have read : Json.readAll (evidenceText "0.5").toList =
      .ok (evidenceValue (.finite false 4503599627370496 (-53))) := by decide +kernel
  obtain ⟨overviews, graphs, tasks, features⟩ := outputs_comeBack read
  refine ⟨_, read, ⟨_, rfl, overviews _ rfl⟩, ⟨_, rfl, graphs _ rfl⟩, ⟨_, rfl, tasks _ rfl⟩, ?_⟩
  obtain ⟨comesBack, -⟩ := features (evidenceFeatures (.finite false 4503599627370496 (-53))) rfl
  exact ⟨_, rfl, comesBack⟩

/-- A text without NaN whose features come back neither from the cache nor from prompts, as there is a number in their
evidence that is not finite. -/
theorem infiniteEvidence_lost : ∃ features,
    Json.readAll (evidenceText "1e999").toList = .ok (evidenceValue (.infinite false)) ∧
      Features.codec.read (evidenceValue (.infinite false)) = .valid features ∧
      Features.codec.read (Features.codec.write .stored features) ≠ .valid features ∧
      ∀ value, Reply.parseObject (Running.prompted Features.codec features) = .ok value ->
        Features.codec.read value ≠ .valid features := by
  have read : Json.readAll (evidenceText "1e999").toList = .ok (evidenceValue (.infinite false)) := by decide +kernel
  have taken : Features.codec.read (evidenceValue (.infinite false)) = .valid (evidenceFeatures (.infinite false)) :=
    rfl
  have comesBack := comesBack_features ⟨_, Json.isReadable_readAll read, taken⟩
  have differs : Checked.valid (evidenceFeatures (.infinite false)).plain ≠
      .valid (evidenceFeatures (.infinite false)) := by
    decide
  obtain ⟨again, parsed, prompted⟩ := comesBack.prompted
  refine ⟨_, read, taken, comesBack.read .stored ▸ differs, fun value alsoParsed => ?_⟩
  obtain rfl := Except.ok.inj (parsed.symm.trans alsoParsed)
  exact prompted ▸ differs

end RepoSurvey.Analysis

import RepoSurvey.Proofs.Analysis.Courses
import RepoSurvey.Proofs.Analysis.Outputs
import RepoSurvey.Proofs.Survey.Findings

/-!
# Results and their records

Every result that a run makes is written as a sound value, so that what a cache keeps of it is what was written:
`writesSound_of_makes`. It is read back as the same result when the versions of all dependencies are texts and
the values that are taken as they come, metadata and evidence, hold finite numbers only, and not otherwise:
`restores_iff_isPlain`. In any case a result that is read back has the documents of the one that was written:
`documents_of_read`.
-/

namespace RepoSurvey.Analysis

open Clock (Moment)
open Number (Binary64)
open Schema
open Schema.Part (faithful_named restores_named writesSound_named)

/-! ## Outputs of stages -/

/-- Overviews are kept by their codec. -/
theorem faithful_overview : Overview.codec.IsFaithful where
  writesSound overview := (carries_overview Json.isStructural_sound overview).writesSound
  restores overview := (carries_overview Json.isStructural_sound overview).restores

/-- Dependency graphs are kept by their codec. -/
theorem faithful_graph : Graph.codec.IsFaithful := by
  have carries : ∀ graph : Graph, Graph.codec.Carries Json.Sound graph := fun _ =>
    carries_graph Json.isStructural_sound ⟨fun _ _ _ _ => trivial, fun _ _ => ⟨trivial, trivial⟩⟩
  exact ⟨fun graph => (carries graph).writesSound, fun graph => (carries graph).restores⟩

/-- Features that were replied are sound. -/
theorem sound_of_replied {features : Features} (replied : Replied Features.codec features) :
    ∀ feature ∈ features.features, feature.IsOf Json.Sound :=
  isOf_of_tookFeatures Json.isStructural_sound replied

/-! ## Results -/

/-- Types of analyses are read back. -/
theorem AnalysisType.restores (analysisType : AnalysisType) : AnalysisType.codec.Restores analysisType :=
  Codec.restores_choice (by cases analysisType <;> rfl)

/-- Written documents are kept by their codec. -/
theorem faithful_writtenDocument : WrittenDocument.codec.IsFaithful :=
  Codec.faithful_record (by decide) (by decide)
    ((faithful_named Codec.faithful_text).map WrittenDocument.mk |>.seq (faithful_named Codec.faithful_text)
      |>.seq (faithful_named Codec.faithful_text)
      |>.seq (faithful_named (Codec.faithful_text.optional fun _ => Json.noConfusion))
      |>.seq (faithful_named Codec.faithful_text.list))

/-- Failed documents are kept by their codec. -/
theorem faithful_failedDocument : FailedDocument.codec.IsFaithful :=
  Codec.faithful_record (by decide) (by decide)
    ((faithful_named Codec.faithful_text).map FailedDocument.mk
      |>.seq (faithful_named (Codec.faithful_text.optional fun _ => Json.noConfusion))
      |>.seq (faithful_named Codec.faithful_text))

namespace Result

variable {now later : Moment} {result found : Result} {run : Running} {timely : Moment -> Prop}

/-- A result that a run makes for sound metadata is written as a sound value. -/
theorem writesSound_of_makes (makes : run.Makes timely result)
    (metadata : (Json.obj run.request.metadata).Sound) : (codec now).WritesSound result := by
  have metadata : Codec.members.WritesSound result.metadata :=
    Codec.writesSound_members (makes.metadata ▸ metadata)
  have layout : Survey.Structure.codec.WritesSound result.layout :=
    makes.layout ▸ Survey.writesSound_structure run.checkout
  have dependencies := Survey.writesSound_dependencies (Survey.isProper_ofCheckout makes.dependencies)
  have quality : Survey.Quality.codec.WritesSound result.codeQuality :=
    makes.quality ▸ Survey.writesSound_quality (Survey.isCanonical_quality run.checkout)
  have features := writesSound_features (sound_of_replied makes.features)
  have text := Codec.faithful_text.writesSound
  have analysisType : AnalysisType.codec.WritesSound result.analysisType := trivial
  have completedAt : Codec.timestamp.WritesSound result.completedAt := trivial
  exact Codec.writesSound_record (by decide)
    ((writesSound_named (text _)).map Result.mk |>.seq (writesSound_named analysisType) |>.seq
      (writesSound_named (text _)) |>.seq (writesSound_named metadata) |>.seq (writesSound_named layout) |>.seq
      (writesSound_named dependencies) |>.seq (writesSound_named quality) |>.seq
      (writesSound_named (faithful_overview.writesSound _)) |>.seq
      (writesSound_named (faithful_graph.writesSound _)) |>.seq (writesSound_named features) |>.seq
      (writesSound_named (faithful_writtenDocument.list.writesSound _)) |>.seq
      (writesSound_named (faithful_failedDocument.list.writesSound _)) |>.seq (writesSound_named completedAt))

/-- Whether all versions of dependencies are texts and all numbers finite in what is taken as it comes. -/
structure IsPlain (result : Result) : Prop where
  dependencies : result.dependencies.IsTextual
  metadata : Json.membersAreFinite result.metadata = true
  evidence : ∀ feature ∈ result.coreFeatures.features, feature.IsFinite

/-- The moment at which a result is written does not matter. -/
theorem write_codec (now later : Moment) : (codec now).write = (codec later).write := by
  funext form result
  exact rfl

/-- What is read of some parts of a result is what their codecs read of what was written. -/
theorem reads_of_read (sound : (codec now).WritesSound result)
    (read : (codec later).read ((codec now).write .stored result) = .valid found) :
    found.repositoryUrl = result.repositoryUrl ∧ found.analysisType = result.analysisType ∧
      found.projectKey = result.projectKey ∧ found.documents = result.documents ∧
      Codec.members.read (Codec.members.write .stored result.metadata) = .valid found.metadata ∧
      Survey.Dependencies.codec.read (Survey.Dependencies.codec.write .stored result.dependencies) =
        .valid found.dependencies ∧
      Features.codec.read (Features.codec.write .stored result.coreFeatures) = .valid found.coreFeatures := by
  have distinct := sound.1
  have parts := Codec.read_of_record read
  simp only [Part.read_seq_eq_valid, Part.read_map_eq_valid] at parts
  obtain ⟨_, _, ⟨_, _, ⟨_, documents, ⟨_, features, ⟨_, _, ⟨_, _, ⟨_, _, ⟨_, dependencies, ⟨_, _, ⟨_, metadata,
    ⟨_, key, ⟨_, kind, ⟨url, urlRead, rfl⟩, kindRead, rfl⟩, keyRead, rfl⟩, metadataRead, rfl⟩, -, rfl⟩, dependenciesRead, rfl⟩, -, rfl⟩,
    -, rfl⟩, -, rfl⟩, featuresRead, rfl⟩, documentsRead, rfl⟩, -, rfl⟩, -, rfl⟩ := parts
  refine ⟨?_, ?_, ?_, ?_, ?_, ?_, ?_⟩
  · exact Part.eq_of_read_field (Codec.restores_text _) distinct (by simp) urlRead
  · exact Part.eq_of_read_field (AnalysisType.restores _) distinct (by simp) kindRead
  · exact Part.eq_of_read_field (Codec.restores_text _) distinct (by simp) keyRead
  · exact Part.eq_of_read_field (faithful_writtenDocument.list.restores _) distinct (by simp) documentsRead
  · exact Part.read_of_read_named distinct (by simp) (Part.unnamed_of_eq rfl) metadataRead
  · exact Part.read_of_read_named distinct (by simp) (Part.unnamed_of_eq rfl) dependenciesRead
  · exact Part.read_of_read_named distinct (by simp) (Part.unnamed_of_eq rfl) featuresRead

/-- A result that is read back is of the project of the one that was written, and has its documents. -/
theorem documents_of_read (sound : (codec now).WritesSound result)
    (read : (codec later).read ((codec now).write .stored result) = .valid found) :
    found.projectKey = result.projectKey ∧ found.documents = result.documents :=
  let ⟨_, _, sameKey, sameDocuments, _⟩ := reads_of_read sound read
  ⟨sameKey, sameDocuments⟩

/-- A result that is read back has the address and the type of the one that was written, and its metadata as far as they
can be written. -/
theorem request_of_read (sound : (codec now).WritesSound result)
    (read : (codec later).read ((codec now).write .stored result) = .valid found) :
    found.repositoryUrl = result.repositoryUrl ∧ found.analysisType = result.analysisType ∧
      found.metadata = Json.finiteMembers result.metadata := by
  obtain ⟨sameUrl, sameType, -, -, metadataRead, -⟩ := reads_of_read sound read
  exact ⟨sameUrl, sameType, (Checked.valid.inj metadataRead).symm⟩

/-- A result that a run makes is read back as the result itself when it is plain, and only then. -/
theorem restores_iff_isPlain (makes : run.Makes Moment.InCalendar result)
    (metadata : (Json.obj run.request.metadata).Sound) (now : Moment) :
    (codec now).Restores result ↔ result.IsPlain := by
  have dependencies := Survey.restores_dependencies_iff (Survey.isProper_ofCheckout makes.dependencies)
  have features := restores_features_iff (sound_of_replied makes.features)
  constructor
  · intro restores
    obtain ⟨-, -, -, -, metadataRead, dependenciesRead, featuresRead⟩ :=
      reads_of_read (writesSound_of_makes makes metadata) restores
    exact ⟨dependencies.mp dependenciesRead, Codec.restores_members_iff.mp metadataRead, features.mp featuresRead⟩
  · intro plain
    have completedAt : Codec.timestamp.Restores result.completedAt := by
      obtain ⟨moment, inCalendar, isCompleted⟩ := makes.completedAt
      exact Codec.restores_timestamp (isCompleted ▸ Clock.Timestamp.regular_ofMoment inCalendar)
    have text := Codec.restores_text
    exact Codec.restores_record (by decide) (by decide)
      ((restores_named (text _)).map Result.mk |>.seq (restores_named (AnalysisType.restores _)) |>.seq
        (restores_named (text _)) |>.seq (restores_named (Codec.restores_members_iff.mpr plain.metadata)) |>.seq
        (restores_named (Survey.restores_structure _)) |>.seq
        (restores_named (dependencies.mpr plain.dependencies)) |>.seq
        (restores_named (Survey.restores_quality _)) |>.seq (restores_named (faithful_overview.restores _)) |>.seq
        (restores_named (faithful_graph.restores _)) |>.seq
        (restores_named (features.mpr plain.evidence)) |>.seq
        (restores_named (faithful_writtenDocument.list.restores _)) |>.seq
        (restores_named (faithful_failedDocument.list.restores _)) |>.seq (restores_named completedAt))

end Result

end RepoSurvey.Analysis

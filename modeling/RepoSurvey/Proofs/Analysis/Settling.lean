import RepoSurvey.Proofs.Analysis.Publication

/-!
# What batches leave behind

Every task of a batch is reported on once. A document that is reported as written can be read in both
languages, and of one that could not be written nothing is left: `writeAll_settles`. A document that was
written and is reported as failed because telling of it came to trouble keeps its drafts.
-/

namespace RepoSurvey.Analysis

open Activity (Abides Exchange)
open Store (Documents Variant)

/-- Whether a document can be read in both languages. -/
def IsReadable (context : Context) (project docName : String) (status : Store.Status) (documents : Documents) :
    Prop :=
  ∀ language ∈ [context.primaryLanguage, context.secondaryLanguage],
    (documents.get? project docName language status).isSome

/-- Whether no draft of a document is left in any language. -/
def HasNoDrafts (project docName : String) (documents : Documents) : Prop :=
  ∀ language, documents.get? project docName language .draft = none

section Batches

variable {σ : Type} {surroundings : Surroundings σ} {world after : World σ} {context : Context} {batch : Batch}
  {tell : Nat -> Nat -> Attempt Unit} {tasks : List DocumentTask} {report : WriteReport}

/-- A document that was saved leaves variants in both languages. -/
theorem holds_leaves {settlement : Settlement} {manuscript : Manuscript}
    (isOutcome : settlement.outcome = .ok manuscript) (drafts : List Variant) {language : String}
    (member : language ∈ [context.primaryLanguage, context.secondaryLanguage]) :
    Store.Holds settlement.docName language (settlement.leaves context drafts) := by
  unfold Settlement.leaves
  rw [isOutcome]
  rcases List.mem_cons.mp member with rfl | member
  · exact Store.Holds.putVariant ⟨_, Store.mem_putVariant_self _ _⟩ _
  · obtain rfl := List.mem_singleton.mp member
    exact ⟨_, Store.mem_putVariant_self _ _⟩

/-- A settlement without a failure is that of a document that was saved. -/
theorem outcome_of_noFailure {settlement : Settlement} (noFailure : settlement.failure? = none) :
    ∃ manuscript, settlement.outcome = .ok manuscript := by
  unfold Settlement.failure? Settlement.result at noFailure
  cases isTold : settlement.told with
  | error problem => simp [isTold] at noFailure
  | ok done =>
    cases isOutcome : settlement.outcome with
    | ok manuscript => exact ⟨manuscript, rfl⟩
    | error failure => simp [isTold, isOutcome] at noFailure

/-- A settlement without an entry is that of a document that was not saved or not told of. -/
theorem told_of_noEntry {settlement : Settlement} {manuscript : Manuscript}
    (noEntry : settlement.entry? context = none) (isOutcome : settlement.outcome = .ok manuscript) :
    ∃ problem, settlement.told = .error problem := by
  unfold Settlement.entry? Settlement.result at noEntry
  cases isTold : settlement.told with
  | error problem => exact ⟨problem, rfl⟩
  | ok done => simp [isTold, isOutcome, Except.toOption] at noEntry

/-- A batch of a single task for the empty repository, of which it cannot be told that it is settled. -/
def untoldBatch : Doing WriteReport :=
  let tell (_ _ : Nat) : Attempt Unit := throw (.refused .listener "untold")
  writeAll emptyContext ⟨emptyContext.checkout "repo", "p", "{}"⟩ tell [⟨"A", "", "", "", none⟩]

/-- Replies for the writer and the translator of a document. -/
def untoldReplies : List String := ["\x7b\"document\":\"text\"\x7d", "\x7b\"document\":\"other\"\x7d"]

set_option maxRecDepth 100000 in
/-- All calls of the batch are served, and its task is reported as failed. -/
theorem untoldBatch_fails : AllServed (untoldBatch.exchanges (World.answer (.reciting fun _ => none))
      (.untouched untoldReplies)) ∧
    (World.run (.reciting fun _ => none) untoldBatch (.untouched untoldReplies)).1 =
      ⟨[], [⟨"A", none, "untold"⟩]⟩ ∧
    ((World.run (.reciting fun _ => none) untoldBatch (.untouched untoldReplies)).2.documents.get? "p" "A" "en"
      .draft) = some "text" := by
  simp only [untoldBatch, @writeAll_one emptyContext rfl, emptyContext_checkout]
  decide +kernel

end Batches

end RepoSurvey.Analysis

import AgentHive.Media.HttpProvider
import AgentHive.Services.MediaGeneration

/-!
What applying the response of a provider leaves of a media job.

The status, the outputs and the external id are read from the response one by one, so a
success may come without outputs, and a job be left running that nobody can poll.
-/

namespace AgentHive

open HttpMediaProvider MediaGeneration
open Rag (Json JsonDict)

structure Actionable (job : MediaGenerationJob) : Prop where
  succeeded : job.status = .succeeded → job.outputs ≠ []
  running : job.status = .running → truthy job.externalJobId = true
  failed : job.status = .failed → truthy job.errorMessage = true

def NamesJob (payload : JsonDict) : Prop :=
  ∃ key ∈ externalIdKeys, ∃ text, payload.get key = .str text ∧ text ≠ ""

/-- A status of success comes with an output, and one of a job under way with an id, unless
the id is known already. -/
structure Complete (texts : ResponseTexts) (payload : JsonDict) (known : Option String) :
    Prop where
  outputs : normalizeProviderStatus texts.toOutputTexts (payload.get "status") = some .succeeded →
    ∃ found, IsOutput payload found
  pollable : normalizeProviderStatus texts.toOutputTexts (payload.get "status") = some .running →
    NamesJob payload ∨ truthy known = true

/-- The rows that applying a result may store: with what the archive has made of its outputs,
or with the failure of the archive. -/
inductive Stores (result : MediaProviderSubmitResult) (job : MediaGenerationJob) :
    MediaGenerationJob → Prop
  | applied (archived outputs : List Dict) (metadata : MediaMetadata)
      (kept : outputs.length = result.outputs.length) :
      Stores result job (updatedJob
        { status := result.status
          outputs := some archived
          externalJobId := result.externalJobId
          errorMessage := result.errorMessage
          metadata } (some outputs) job)
  | archiveFailed (text : String) (metadata : MediaMetadata) (told : text ≠ "") :
      Stores result job
        (updatedJob { status := .failed, errorMessage := some text, metadata } none job)

theorem firstString_some {item : JsonDict} {keys : List String} {text : String}
    (found : firstString item keys = some text) :
    text ≠ "" ∧ ∃ key ∈ keys, item.get key = .str text := by
  induction keys with
  | nil => cases found
  | cons key keys ih =>
    rw [firstString] at found
    split at found
    · rename_i value eq
      split at found
      · obtain ⟨filled, other, mem, given⟩ := ih found
        exact ⟨filled, other, List.mem_cons_of_mem _ mem, given⟩
      · rename_i filled
        cases found
        exact ⟨filled, key, List.mem_cons_self, eq⟩
    · obtain ⟨filled, other, mem, given⟩ := ih found
      exact ⟨filled, other, List.mem_cons_of_mem _ mem, given⟩

theorem firstString_none {item : JsonDict} {keys : List String}
    (missing : firstString item keys = none)
    {key : String} (mem : key ∈ keys) {text : String} (given : item.get key = .str text) :
    text = "" := by
  induction keys with
  | nil => cases mem
  | cons first keys ih =>
    rw [firstString] at missing
    cases mem with
    | head =>
      by_contra filled
      simp [given, filled] at missing
    | tail _ mem =>
      split at missing
      · split at missing
        · exact ih missing mem
        · cases missing
      · exact ih missing mem

theorem names_iff (payload : JsonDict) (known : Option String) :
    truthy ((extractExternalJobId payload).or known) = true ↔
      NamesJob payload ∨ truthy known = true := by
  cases found : extractExternalJobId payload with
  | some text =>
    obtain ⟨filled, key, mem, given⟩ := firstString_some found
    exact ⟨fun _ => .inl ⟨key, mem, text, given, filled⟩, fun _ => truthy_iff.mpr ⟨_, rfl, filled⟩⟩
  | none =>
    refine ⟨.inr, fun named => named.resolve_left ?_⟩
    intro ⟨key, mem, text, given, filled⟩
    exact filled (firstString_none found mem given)

variable {texts : ResponseTexts}

theorem outputs_iff (texts : ResponseTexts) (payload : JsonDict) :
    extractOutputs texts.toOutputTexts payload ≠ [] ↔ ∃ found, IsOutput payload found := by
  rw [extractOutputs, ne_eq, List.map_eq_nil_iff]
  exact extractCandidates_ne_nil

theorem applied_actionable_iff {job row : MediaGenerationJob} {payload : JsonDict}
    (status : row.status = statusOf texts job.kind payload)
    (outputs : row.outputs.length = (submitResult texts job payload).outputs.length)
    (id : row.externalJobId = (extractExternalJobId payload).or job.externalJobId)
    (told : row.status = .failed → truthy row.errorMessage = true) :
    Actionable row ↔ Complete texts payload job.externalJobId := by
  have filled : row.outputs ≠ [] ↔ ∃ found, IsOutput payload found := by
    rw [← outputs_iff texts, ← List.length_pos_iff, outputs, submitResult, List.length_map,
      List.length_pos_iff]
  have named : truthy row.externalJobId = true ↔
      NamesJob payload ∨ truthy job.externalJobId = true := by
    rw [id]
    exact names_iff payload job.externalJobId
  unfold statusOf at status
  split at status
  · rename_i read
    constructor
    · intro actionable
      refine ⟨fun same => ?_, fun same => ?_⟩
      · exact filled.mp (actionable.succeeded (status.trans (Option.some.inj (read.symm.trans same))))
      · exact named.mp (actionable.running (status.trans (Option.some.inj (read.symm.trans same))))
    · intro complete
      refine ⟨fun same => ?_, fun same => ?_, told⟩
      · exact filled.mpr (complete.outputs (read.trans (congrArg some (status.symm.trans same))))
      · exact named.mpr (complete.pollable (read.trans (congrArg some (status.symm.trans same))))
  · rename_i unread
    refine ⟨fun _ => ⟨fun same => ?_, fun same => ?_⟩, fun _ => ⟨fun same => ?_, fun same => ?_, told⟩⟩
    · rw [unread] at same
      cases same
    · rw [unread] at same
      cases same
    · split at status
      · rename_i given
        exact filled.mpr ((outputs_iff texts payload).mp (by simpa using given))
      · split at status <;> (rw [same] at status; cases status)
    · split at status
      · rw [same] at status
        cases status
      · split at status
        · rename_i started
          obtain ⟨text, eq⟩ := Option.isSome_iff_exists.mp started.2
          obtain ⟨filled, key, mem, given⟩ := firstString_some eq
          exact named.mpr (.inl ⟨key, mem, text, given, filled⟩)
        · rw [same] at status
          cases status

theorem submitResult_told (job : MediaGenerationJob) (payload : JsonDict) (known : Option String)
    (failed : (submitResult texts job payload).status = .failed) :
    truthy ((submitResult texts job payload).errorMessage.or known) = true := by
  change truthy (Option.or (if statusOf texts job.kind payload = .failed ∧ _ then _
    else _) _) = true
  by_cases silent : truthy (extractErrorMessage payload) = false
  · rw [if_pos ⟨failed, silent⟩]
    rfl
  · rw [if_neg fun both => silent both.2]
    obtain ⟨text, eq, some⟩ := truthy_iff.mp (Bool.eq_true_of_not_eq_false silent)
    rw [eq]
    exact truthy_iff.mpr ⟨text, rfl, some⟩

theorem Stores.actionable {result : MediaProviderSubmitResult} {job row : MediaGenerationJob}
    {payload : JsonDict} (stores : Stores result job row)
    (complete : Complete texts payload job.externalJobId)
    (status : result.status = (submitResult texts job payload).status)
    (outputs : result.outputs = (submitResult texts job payload).outputs)
    (id : result.externalJobId = (submitResult texts job payload).externalJobId)
    (error : result.errorMessage = (submitResult texts job payload).errorMessage) :
    Actionable row := by
  cases stores with
  | applied archived kept metadata length =>
    refine (applied_actionable_iff status ?_ ?_ fun failed => ?_).mpr complete
    · exact length.trans (congrArg List.length outputs)
    · exact congrArg (Option.or · job.externalJobId) id
    · exact (congrArg (fun text => truthy (Option.or text _)) error).trans
        (submitResult_told job payload _ (status.symm.trans failed))
  | archiveFailed text metadata told =>
    exact ⟨nofun, nofun, fun _ => truthy_iff.mpr ⟨text, rfl, told⟩⟩

def plainResponses : ResponseTexts where
  str value := match value with
    | .str text => text
    | _ => ""
  lower text := text
  row fields := fields.map fun e => (e.1, match e.2 with
    | .str text => .str text
    | _ => .none)
  value value := .plain (match value with
    | .str text => .str text
    | _ => .none)

def posterJob : MediaGenerationJob :=
  { id := 7, tenantId := 1, kind := "image", status := .running, providerKey := "studio",
    providerType := "http", modelKey := "poster", routingKey := "image" }

end AgentHive

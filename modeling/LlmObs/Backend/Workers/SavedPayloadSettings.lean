import LlmObs.Backend.Api.ProjectSettings
import LlmObs.Backend.Workers.BatchConsistency
import LlmObs.Backend.Workers.PayloadObjects
import LlmObs.Foundation.JsonText

/-!
Owns when the worker obeys the payload settings that `update_settings` saved: unless
the saved size limit is zero, which `load_payload_privacy_settings` takes for unset,
and the mode stores payloads at all.
-/

namespace LlmObs.Backend

open LlmObs.Foundation

/-- The worker finds the saved row. -/
def World.HasSettings (world : World) (projectId : UUID) (saved : ProjectSettings) : Prop :=
  (world.db.projects.rows.find? fun row => row.id = projectId) = some saved.project

/-- Every written object is of a span that the mode includes, and within the limit. -/
def ProjectSettings.Obeyed (saved : ProjectSettings) (writes : List PayloadWrite) : Prop :=
  ∀ write ∈ writes, shouldStorePayload saved.payloadStorageMode write.span.hasError = true ∧
    write.bytes.length ≤ saved.payloadMaxBytes

/-- The update leaves the row with a limit of zero bytes. -/
def ProjectSettingsUpdate.SavesZeroBytes (update : ProjectSettingsUpdate)
    (stored : ProjectSettings) : Prop :=
  update.payloadMaxBytes = some (some 0) ∨
    update.payloadMaxBytes = none ∧ stored.payloadMaxBytes = 0

/-- The update leaves the row with the mode `none`. -/
def ProjectSettingsUpdate.SavesModeNone (update : ProjectSettingsUpdate)
    (stored : ProjectSettings) : Prop :=
  update.payloadStorageMode = some (some .none) ∨
    update.payloadStorageMode = none ∧ stored.payloadStorageMode = .none

/-- The encoder writes a payload without messages and output, redacted or not, as at
least one byte and not as more than the default limit. -/
def Runtime.EncodesEmptyPayload (runtime : Runtime) : Prop :=
  ∀ redactKeys, ∃ bytes, runtime.dumpsUtf8 (redactedPayload runtime redactKeys [] none) =
    some bytes ∧ 0 < bytes.length ∧ bytes.length ≤ defaultPayloadMaxBytes

theorem ProjectSettingsUpdate.set?_payload {runtime : Runtime} {update : ProjectSettingsUpdate}
    {stored saved : ProjectSettings} (applied : update.set? runtime stored = some saved) :
    (saved.payloadMaxBytes = 0 ↔ update.SavesZeroBytes stored) ∧
      (saved.payloadStorageMode = .none ↔ update.SavesModeNone stored) := by
  simp only [set?, Option.bind_eq_bind, Option.bind_eq_some_iff, pure, Option.some.injEq,
    setColumn_eq_some] at applied
  obtain ⟨_, -, mode, modeSet, bytes, bytesSet, _, -, rfl⟩ := applied
  constructor
  · rcases bytesSet with set | ⟨unset, rfl⟩
    · simp [SavesZeroBytes, set]
    · simp [SavesZeroBytes, unset]
  · rcases modeSet with set | ⟨unset, rfl⟩
    · simp [SavesModeNone, set]
    · simp [SavesModeNone, unset]

section

variable {runtime : Runtime} {projectId : UUID} {saved : ProjectSettings}

/-- A zero limit is loaded as the default one, and every other limit as it is. -/
theorem loadPayloadPrivacySettings_saved {projects : ProjectTable}
    (found : (projects.rows.find? fun row => row.id = projectId) = some saved.project) :
    (loadPayloadPrivacySettings projectId projects).payloadStorageMode =
        saved.payloadStorageMode ∧
      (loadPayloadPrivacySettings projectId projects).payloadMaxBytes =
        if saved.payloadMaxBytes = 0 then defaultPayloadMaxBytes else saved.payloadMaxBytes := by
  simp only [loadPayloadPrivacySettings, found]
  exact ⟨rfl, rfl⟩

/-- Settings whose limit is not zero are obeyed, and so is the mode `none`. -/
theorem obeyed_of_saved {env : AttemptEnv} {spans : List SpanSchema} {world : World}
    (has : world.HasSettings projectId saved)
    (condition : saved.payloadMaxBytes ≠ 0 ∨ saved.payloadStorageMode = .none) :
    saved.Obeyed (attemptWrites runtime env projectId spans world) := by
  intro write member
  obtain ⟨-, admitted, -, fits⟩ := mem_attemptWrites member
  obtain ⟨mode, limit⟩ := loadPayloadPrivacySettings_saved has
  rw [mode] at admitted
  refine ⟨admitted, ?_⟩
  rcases condition with positive | excluded
  · rwa [limit, if_neg positive] at fits
  · rw [excluded] at admitted
    cases admitted

/-- A failed call without messages and output. -/
def failedCallWithoutPayload : SpanSchema :=
  { spanStartingAt (.utc 0) with
    error := some "rate limited"
    error_le := by decide }

/-- A world with nothing in it but projects. -/
def World.ofProjects (projects : ProjectTable) : World :=
  .ofDatabase { Database.empty with projects := projects }

theorem calculate_failedCall :
    calculate runtime Table.empty failedCallWithoutPayload.provider
        failedCallWithoutPayload.model failedCallWithoutPayload.inputTokens
        failedCallWithoutPayload.outputTokens failedCallWithoutPayload.startedAt (fun _ => [])
        (fun _ => none) =
      (.ok 0, fun _ => [], fun _ => none) := rfl

/-- With a limit of zero bytes saved, a failed call writes an object all the same. -/
theorem attemptWrites_of_zero (encodes : runtime.EncodesEmptyPayload) {projects : ProjectTable}
    (found : (projects.rows.find? fun row => row.id = projectId) = some saved.project)
    (zero : saved.payloadMaxBytes = 0) (stores : saved.payloadStorageMode ≠ .none) :
    ∃ write ∈ attemptWrites runtime .faultless projectId [failedCallWithoutPayload]
      (.ofProjects projects), 0 < write.bytes.length := by
  obtain ⟨mode, limit⟩ := loadPayloadPrivacySettings_saved found
  rw [if_pos zero] at limit
  obtain ⟨bytes, encoded, nonempty, fits⟩ := encodes
    (parseRedactKeys runtime (loadPayloadPrivacySettings projectId projects).payloadRedactKeys)
  have admitted : shouldStorePayload (loadPayloadPrivacySettings projectId
      projects).payloadStorageMode failedCallWithoutPayload.hasError = true := by
    rw [mode]
    cases stored : saved.payloadStorageMode with
    | all => rfl
    | errors => rfl
    | none => exact absurd stored stores
  obtain ⟨status, prepares⟩ : ∃ status, preparePayload runtime .faultless
      (loadPayloadPrivacySettings projectId projects) (parseRedactKeys runtime
        (loadPayloadPrivacySettings projectId projects).payloadRedactKeys) projectId 0
      failedCallWithoutPayload (fun _ => none) =
        .ok (⟨some (payloadKey projectId failedCallWithoutPayload.spanId), status, none⟩,
          ObjectStore.put (fun _ => none)
            (payloadKey projectId failedCallWithoutPayload.spanId) bytes) :=
    preparePayload_stored rfl admitted encoded (limit ▸ fits) fun _ => none
  have pairs : attemptPairs runtime .faultless projectId [failedCallWithoutPayload]
      (.ofProjects projects) = preparedPairs (prepareSpan runtime .faultless Table.empty
        (loadPayloadPrivacySettings projectId projects) projectId) 0 [failedCallWithoutPayload]
        ⟨fun _ => none, fun _ => [], fun _ => none⟩ := rfl
  have keys : attemptRedactKeys runtime projectId (.ofProjects projects) =
      parseRedactKeys runtime
        (loadPayloadPrivacySettings projectId projects).payloadRedactKeys := rfl
  change failedCallWithoutPayload.encodedPayload runtime _ = _ at encoded
  refine ⟨⟨failedCallWithoutPayload, bytes⟩, ?_, nonempty⟩
  rw [attemptWrites, pairs, keys]
  simp only [AttemptEnv.faultless] at prepares
  simp only [preparedPairs, prepareSpan, AttemptEnv.check, AttemptEnv.faultless,
    calculate_failedCall, prepares, preparedSpan, List.filterMap_cons, payloadWrite, encoded,
    Option.map_some, List.mem_cons, true_or]

/-- Saved settings are obeyed by every attempt that finds them unless a limit of zero
bytes was saved and the mode is not `none`. -/
theorem updateSettings_obeyed_iff (encodes : runtime.EncodesEmptyPayload) {user : CurrentUser}
    {update : ProjectSettingsUpdate} {table after : ProjectSettingsTable}
    {stored : ProjectSettings} (isStored : stored ∈ table.rows) (isOf : stored.id = projectId)
    (updated : updateSettings runtime user projectId update table = (.ok saved, after)) :
    (∀ env spans world, World.HasSettings world projectId saved →
        saved.Obeyed (attemptWrites runtime env projectId spans world)) ↔
      ¬ update.SavesZeroBytes stored ∨ update.SavesModeNone stored := by
  obtain ⟨applied, member, same, application, -⟩ := updateSettings_stored updated
  simp only [ProjectSettings.isOf, Bool.and_eq_true, decide_eq_true_eq] at same
  obtain rfl := Table.eq_of_clash (fun _ _ clash => clash.symm) member isStored
    (same.1.trans isOf.symm)
  obtain ⟨zeroBytes, modeNone⟩ := update.set?_payload application
  rw [← zeroBytes, ← modeNone]
  constructor
  · intro obeyed
    by_contra disobeyed
    rw [not_or, not_not] at disobeyed
    have found := find?_updateSettings updated
    obtain ⟨write, written, nonempty⟩ :=
      attemptWrites_of_zero encodes found disobeyed.1 disobeyed.2
    have has : World.HasSettings (.ofProjects (ProjectSettingsTable.projects after)) projectId
      saved := found
    have fits := (obeyed _ _ _ has write written).2
    rw [disobeyed.1] at fits
    omega
  · intro condition env spans world has
    exact obeyed_of_saved has condition

end

/-! ### A limit of zero bytes -/

/-- A process in UTC that writes JSON as `json.dumps(value, ensure_ascii=False)`. -/
def Runtime.writingJson : Runtime :=
  { Runtime.inUtc with
    dumpsUtf8 := fun value =>
      some ((value.dumpsUnicode fun number => toString number).flatMap String.utf8EncodeChar) }

theorem encodesEmptyPayload_writingJson : Runtime.writingJson.EncodesEmptyPayload := by
  intro redactKeys
  refine ⟨_, rfl, ?_⟩
  unfold redactedPayload
  simp only [redactPayload, redactEntries, redactItems]
  split_ifs <;> decide +kernel

def defaultSettings : ProjectSettings where
  id := 1
  orgId := 1
  retentionDays := 90
  payloadStorageMode := .all
  payloadMaxBytes := defaultPayloadMaxBytes
  payloadRedactKeys := defaultRedactKeys

def zeroBytesUpdate : ProjectSettingsUpdate where
  payloadMaxBytes := some (some 0)

def defaultSettingsTable : ProjectSettingsTable :=
  Table.empty.insertOrSkip defaultSettings

theorem updateSettings_zeroBytes :
    (updateSettings .writingJson ⟨1, "admin"⟩ 1 zeroBytesUpdate defaultSettingsTable).1 =
      .ok { defaultSettings with payloadMaxBytes := 0 } := by
  decide +kernel

theorem updateSettings_obeyed_iff_zeroBytes :
    (∀ env spans world, World.HasSettings world 1 { defaultSettings with payloadMaxBytes := 0 } →
        ProjectSettings.Obeyed { defaultSettings with payloadMaxBytes := 0 }
          (attemptWrites .writingJson env 1 spans world)) ↔
      ¬ zeroBytesUpdate.SavesZeroBytes defaultSettings ∨
        zeroBytesUpdate.SavesModeNone defaultSettings :=
  have isStored : defaultSettings ∈ defaultSettingsTable.rows := by decide +kernel
  updateSettings_obeyed_iff encodesEmptyPayload_writingJson isStored rfl
    (Prod.ext updateSettings_zeroBytes rfl)

/-- The update is stored, and the next failed call writes an object beyond its limit. -/
theorem zeroBytesUpdate_disobeyed :
    (updateSettings .writingJson ⟨1, "admin"⟩ 1 zeroBytesUpdate defaultSettingsTable).1 =
        .ok { defaultSettings with payloadMaxBytes := 0 } ∧
      ∃ write ∈ attemptWrites .writingJson .faultless 1 [failedCallWithoutPayload]
          (.ofProjects (ProjectSettingsTable.projects (updateSettings .writingJson ⟨1, "admin"⟩ 1
            zeroBytesUpdate defaultSettingsTable).2)),
        0 < write.bytes.length :=
  ⟨updateSettings_zeroBytes, attemptWrites_of_zero encodesEmptyPayload_writingJson
    (find?_updateSettings (Prod.ext updateSettings_zeroBytes rfl)) rfl (by decide)⟩

end LlmObs.Backend

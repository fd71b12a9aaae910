import LlmObs.Backend.Api.Projects
import LlmObs.Backend.Models

/-!
Owns the settings of a project: what `ProjectSettingsUpdate` accepts and what
`update_settings` stores of it, column by column. The worker reads the stored row.
It does not own the other project endpoints; `audit_log` is left out.
-/

namespace LlmObs.Backend

open LlmObs.Foundation

/-- The columns of `projects` that the settings endpoints read and write. -/
structure ProjectSettings where
  id : UUID
  orgId : UUID
  retentionDays : Nat
  payloadStorageMode : PayloadStorageMode
  payloadMaxBytes : Nat
  payloadRedactKeys : String
deriving DecidableEq, Repr

abbrev ProjectSettingsTable := Table ProjectSettings fun left right => left.id = right.id

/-- What a worker reads of the row. -/
def ProjectSettings.project (settings : ProjectSettings) : Project where
  id := settings.id
  payloadStorageMode := settings.payloadStorageMode
  payloadMaxBytes := settings.payloadMaxBytes
  payloadRedactKeys := settings.payloadRedactKeys

def ProjectSettingsTable.projects (table : ProjectSettingsTable) : ProjectTable :=
  ⟨table.rows.map ProjectSettings.project, List.pairwise_map.mpr table.unique⟩

def maxPayloadMaxBytes : Nat := 10 * 1024 * 1024

/-- An accepted `ProjectSettingsUpdate`. A field that is not set is `none`, one that is
set to `null` is `some none`. -/
structure ProjectSettingsUpdate where
  retentionDays : Option (Option Nat) := none
  payloadStorageMode : Option (Option PayloadStorageMode) := none
  payloadMaxBytes : Option (Option Nat) := none
  payloadRedactKeys : Option (Option String) := none
  retentionDays_ge : ∀ days, retentionDays = some (some days) → 7 ≤ days := by simp
  retentionDays_le : ∀ days, retentionDays = some (some days) → days ≤ 365 := by simp
  payloadMaxBytes_le : ∀ bytes, payloadMaxBytes = some (some bytes) →
    bytes ≤ maxPayloadMaxBytes := by simp
  payloadRedactKeys_le : ∀ keys, payloadRedactKeys = some (some keys) →
    keys.length ≤ 1000 := by simp

/-- `not body.model_dump(exclude_unset=True)` -/
def ProjectSettingsUpdate.isEmpty (update : ProjectSettingsUpdate) : Bool :=
  update.retentionDays.isNone && update.payloadStorageMode.isNone &&
    update.payloadMaxBytes.isNone && update.payloadRedactKeys.isNone

/-- `CASE WHEN :update THEN :value ELSE column END` of a `NOT NULL` column. -/
def setColumn {α : Type} (update : Option (Option α)) (stored : α) : Option α :=
  match update with
  | none => some stored
  | some value => value

/-- The `SET` clause of `update_settings`; `none` is a null in a `NOT NULL` column. -/
def ProjectSettingsUpdate.set? (runtime : Runtime) (update : ProjectSettingsUpdate)
    (stored : ProjectSettings) : Option ProjectSettings := do
  let retentionDays ← setColumn update.retentionDays stored.retentionDays
  let payloadStorageMode ← setColumn update.payloadStorageMode stored.payloadStorageMode
  let payloadMaxBytes ← setColumn update.payloadMaxBytes stored.payloadMaxBytes
  let payloadRedactKeys ←
    setColumn (update.payloadRedactKeys.map (·.map runtime.strip)) stored.payloadRedactKeys
  return { stored with
    retentionDays := retentionDays
    payloadStorageMode := payloadStorageMode
    payloadMaxBytes := payloadMaxBytes
    payloadRedactKeys := payloadRedactKeys }

def notNullViolation : ProjectsError :=
  .raised ⟨.sqlAlchemyError, "null value violates not-null constraint"⟩

/-- The `WHERE` clause of `update_settings`. -/
def ProjectSettings.isOf (orgId projectId : UUID) (settings : ProjectSettings) : Bool :=
  decide (settings.id = projectId) && decide (settings.orgId = orgId)

theorem ProjectSettingsUpdate.set?_id {runtime : Runtime} {update : ProjectSettingsUpdate}
    {stored saved : ProjectSettings} (applied : update.set? runtime stored = some saved) :
    saved.id = stored.id := by
  simp only [set?, Option.bind_eq_bind, Option.bind_eq_some_iff, pure, Option.some.injEq]
    at applied
  obtain ⟨_, -, _, -, _, -, _, -, rfl⟩ := applied
  rfl

/-- The row after the `UPDATE`. -/
def ProjectSettings.updated (runtime : Runtime) (update : ProjectSettingsUpdate)
    (orgId projectId : UUID) (stored : ProjectSettings) : ProjectSettings :=
  if stored.isOf orgId projectId then (update.set? runtime stored).getD stored else stored

theorem ProjectSettings.updated_id (runtime : Runtime) (update : ProjectSettingsUpdate)
    (orgId projectId : UUID) (stored : ProjectSettings) :
    (stored.updated runtime update orgId projectId).id = stored.id := by
  unfold ProjectSettings.updated
  split
  · cases applied : update.set? runtime stored with
    | none => rfl
    | some saved => exact update.set?_id applied
  · rfl

/-- `update_settings`: the row that it returns, and the table afterwards. -/
def updateSettings (runtime : Runtime) (user : CurrentUser) (projectId : UUID)
    (update : ProjectSettingsUpdate) (table : ProjectSettingsTable) :
    Except ProjectsError ProjectSettings × ProjectSettingsTable :=
  if user.isAdmin then
    if update.isEmpty then (.error (.http 400 "No settings provided"), table)
    else
      match table.rows.find? (·.isOf user.orgId projectId) with
      | none => (.error (.http 404 "Project not found"), table)
      | some stored =>
          match update.set? runtime stored with
          | none => (.error notNullViolation, table)
          | some saved =>
              (.ok saved,
                table.mapRows (·.updated runtime update user.orgId projectId)
                  fun _ _ clash => by simpa only [ProjectSettings.updated_id] using clash)
  else (.error (.http 403 "Admin role required"), table)

/-! ### What is stored -/

/-- The column after the update, where the update sets it or leaves it. -/
theorem setColumn_eq_some {α : Type} {update : Option (Option α)} {stored value : α} :
    setColumn update stored = some value ↔
      update = some (some value) ∨ update = none ∧ stored = value := by
  rcases update with - | - | given <;> simp [setColumn]

section

variable {runtime : Runtime} {user : CurrentUser} {projectId : UUID}
  {update : ProjectSettingsUpdate} {table after : ProjectSettingsTable} {saved : ProjectSettings}

/-- A stored update is one that was applied to the row of the project. -/
theorem updateSettings_stored
    (updated : updateSettings runtime user projectId update table = (.ok saved, after)) :
    ∃ stored ∈ table.rows, stored.isOf user.orgId projectId = true ∧
      update.set? runtime stored = some saved ∧
      after.rows = table.rows.map (·.updated runtime update user.orgId projectId) := by
  simp only [updateSettings] at updated
  split at updated
  · split at updated
    · cases updated
    · split at updated
      · cases updated
      · rename_i stored found
        split at updated
        · cases updated
        · rename_i applied
          obtain ⟨same, table⟩ := Prod.mk.inj updated
          cases same
          exact ⟨stored, List.mem_of_find?_eq_some found, List.find?_some found, applied,
            table ▸ rfl⟩
  · cases updated

/-- A failed update leaves the table as it is. -/
theorem updateSettings_failed {error : ProjectsError}
    (failed : updateSettings runtime user projectId update table = (.error error, after)) :
    after = table := by
  simp only [updateSettings] at failed
  split at failed
  · split at failed
    · exact (Prod.mk.inj failed).2.symm
    · split at failed
      · exact (Prod.mk.inj failed).2.symm
      · split at failed
        · exact (Prod.mk.inj failed).2.symm
        · cases failed
  · exact (Prod.mk.inj failed).2.symm

/-- The worker reads back what was saved. -/
theorem find?_updateSettings
    (updated : updateSettings runtime user projectId update table = (.ok saved, after)) :
    (ProjectSettingsTable.projects after).rows.find? (fun row => row.id = projectId) =
      some saved.project := by
  obtain ⟨stored, member, isOf, applied, rows⟩ := updateSettings_stored updated
  have storedId : stored.id = projectId := by
    simp only [ProjectSettings.isOf, Bool.and_eq_true, decide_eq_true_eq] at isOf
    exact isOf.1
  have inAfter : saved ∈ after.rows := by
    rw [rows]
    refine List.mem_map.mpr ⟨stored, member, ?_⟩
    simp [ProjectSettings.updated, isOf, applied]
  have savedId : saved.id = projectId := (update.set?_id applied).trans storedId
  cases found : (ProjectSettingsTable.projects after).rows.find?
      (fun row => row.id = projectId) with
  | none =>
      have absent := List.find?_eq_none.mp found saved.project (List.mem_map_of_mem inAfter)
      simp [ProjectSettings.project, savedId] at absent
  | some row =>
      have rowId : row.id = projectId := by simpa using List.find?_some found
      have same := Table.eq_of_clash (fun _ _ clash => clash.symm)
        (List.mem_of_find?_eq_some found) (List.mem_map_of_mem inAfter)
        (rowId.trans savedId.symm)
      rw [same]

end

end LlmObs.Backend

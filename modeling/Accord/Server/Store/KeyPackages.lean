import Accord.Server.Store.Model

/-! KeyPackages of devices.  A package that has been handed out stays in the
table, marked as consumed. -/

namespace Accord

namespace Store

def maxUnconsumedKeyPackages : ℕ := 30

def unconsumed (store : Store) : List KeyPackageRow :=
  store.keyPackages.filter fun row => !row.consumed

/-- `SELECT DISTINCT device_id`. -/
def unconsumedDevices (store : Store) (userId : Uuid) : List Uuid :=
  ((store.unconsumed.filter (·.userId == userId)).map (·.deviceId)).eraseDups

/-- `ORDER BY created_at LIMIT 1`: an oldest package of the device.  SQL leaves
open which one it is when several are equally old; `preferred` settles it. -/
def oldestUnconsumed (store : Store) (deviceId preferred : Uuid) :
    Option KeyPackageRow :=
  let candidates := store.unconsumed.filter (·.deviceId == deviceId)
  let oldest := candidates.filter fun row =>
    candidates.all fun other => row.createdAt ≤ other.createdAt
  (oldest.find? (·.id == preferred)).or oldest.head?

def consume (store : Store) (id : Uuid) : Store :=
  { store with
    keyPackages := store.keyPackages.map fun row =>
      if row.id == id then { row with consumed := true } else row }

def insertKeyPackage (row : KeyPackageRow) : Effect Store ServerError Unit := do
  Effect.check (fun store => !store.keyPackages.any (·.id == row.id)) duplicate
  Effect.check
    (fun store => store.referencesHold
      (store.hasUser row.userId && store.hasDevice row.deviceId))
    violation
  Effect.update fun store =>
    { store with keyPackages := store.keyPackages ++ [row] }

/-- `ORDER BY id DESC LIMIT 30`: ids sort by time, and the packages of the
device that are newer than this one number less than thirty. -/
def isNewest (store : Store) (row : KeyPackageRow) : Bool :=
  store.unconsumed.countP (fun other =>
    other.deviceId == row.deviceId && row.id.toNat < other.id.toNat) <
      maxUnconsumedKeyPackages

/-- The packages a device has beyond the newest ones are dropped. -/
def capKeyPackages (store : Store) (deviceId : Uuid) : Store :=
  { store with
    keyPackages := store.keyPackages.filter fun row =>
      !(row.deviceId == deviceId && !row.consumed && !store.isNewest row) }

variable {store : Store}

private theorem mem_unconsumed {row : KeyPackageRow} :
    row ∈ store.unconsumed ↔
      row ∈ store.keyPackages ∧ row.consumed = false := by
  simp [unconsumed]

theorem oldestUnconsumed_mem {deviceId preferred : Uuid}
    {row : KeyPackageRow}
    (found : store.oldestUnconsumed deviceId preferred = some row) :
    row ∈ store.unconsumed := by
  have listed : row ∈ (store.unconsumed.filter
      (·.deviceId == deviceId)).filter fun row =>
        (store.unconsumed.filter (·.deviceId == deviceId)).all
          fun other => row.createdAt ≤ other.createdAt := by
    rcases Option.or_eq_some_iff.mp found with chosen | ⟨_, first⟩
    · exact List.mem_of_find?_eq_some chosen
    · exact List.mem_of_head? first
  exact (List.mem_filter.mp (List.mem_filter.mp listed).1).1

theorem mem_unconsumed_consume {id : Uuid} {row : KeyPackageRow}
    (listed : row ∈ (store.consume id).unconsumed) :
    row ∈ store.unconsumed ∧ row.id ≠ id := by
  obtain ⟨member, fresh⟩ := mem_unconsumed.mp listed
  obtain ⟨before, beforeMember, rfl⟩ := List.mem_map.mp member
  by_cases same : before.id == id
  · rw [if_pos same] at fresh
    cases fresh
  · rw [if_neg same] at fresh ⊢
    exact ⟨mem_unconsumed.mpr ⟨beforeMember, fresh⟩, by simpa using same⟩

theorem mem_unconsumed_cap {deviceId : Uuid} {row : KeyPackageRow}
    (listed : row ∈ (store.capKeyPackages deviceId).unconsumed) :
    row ∈ store.unconsumed := by
  obtain ⟨member, fresh⟩ := mem_unconsumed.mp listed
  exact mem_unconsumed.mpr ⟨(List.mem_filter.mp member).1, fresh⟩

theorem insertKeyPackage_post (row : KeyPackageRow) (store : Store) :
    (insertKeyPackage row).Post store fun _ after =>
      ∀ other ∈ after.unconsumed, other ∈ store.unconsumed ∨ other = row := by
  apply (Effect.readOnly_check _ _).post_bind
  · exact fun _ _ other listed => .inl listed
  · intro _ _
    apply (Effect.readOnly_check _ _).post_bind
    · exact fun _ _ other listed => .inl listed
    · intro _ _
      apply Effect.post_update
      intro other listed
      obtain ⟨member, fresh⟩ := mem_unconsumed.mp listed
      rcases List.mem_append.mp member with old | created
      · exact .inl (mem_unconsumed.mpr ⟨old, fresh⟩)
      · exact .inr (List.mem_singleton.mp created)

end Store

end Accord

import Accord.Library.Paging
import Accord.Server.KeyPackages

/-! The pool of KeyPackages of a device: what a call that stores packages
leaves of it, while others store and claim. -/

namespace Accord

namespace Store

/-- The packages of a device that nobody has claimed. -/
def packagesOf (store : Store) (deviceId : Uuid) : List KeyPackageRow :=
  store.unconsumed.filter (·.deviceId == deviceId)

/-- The ids rise in the order of insertion. -/
def Ascending (store : Store) : Prop :=
  store.keyPackages.Pairwise (·.id.toNat < ·.id.toNat)

instance (store : Store) : Decidable store.Ascending :=
  inferInstanceAs (Decidable (List.Pairwise _ _))

variable {store : Store}

private theorem Ascending.packagesOf (ascending : store.Ascending)
    (deviceId : Uuid) :
    (store.packagesOf deviceId).Pairwise (·.id.toNat < ·.id.toNat) :=
  (ascending.filter _).filter _

private theorem Ascending.eq_of_id (ascending : store.Ascending)
    {first second : KeyPackageRow} (one : first ∈ store.keyPackages)
    (other : second ∈ store.keyPackages) (same : first.id = second.id) :
    first = second := by
  have distinct : (store.keyPackages.map (·.id.toNat)).Nodup := by
    rw [List.Nodup, List.pairwise_map]
    exact ascending.imp fun below => Nat.ne_of_lt below
  exact List.inj_on_of_nodup_map distinct one other
    (congrArg BitVec.toNat same)

private theorem Ascending.cap (ascending : store.Ascending) (deviceId : Uuid) :
    (store.capKeyPackages deviceId).Ascending :=
  ascending.filter _

theorem Ascending.consume (ascending : store.Ascending) (id : Uuid) :
    (store.consume id).Ascending := by
  unfold Ascending Store.consume
  rw [List.pairwise_map]
  refine ascending.imp fun below => ?_
  split <;> split <;> exact below

theorem Ascending.append (ascending : store.Ascending) {row : KeyPackageRow}
    (above : ∀ other ∈ store.keyPackages, other.id.toNat < row.id.toNat) :
    Ascending { store with keyPackages := store.keyPackages ++ [row] } := by
  refine List.pairwise_append.mpr ⟨ascending, List.pairwise_singleton _ _, ?_⟩
  intro other member added created
  rw [List.mem_singleton.mp created]
  exact above other member

private theorem isNewest_eq (store : Store) {row : KeyPackageRow}
    {deviceId : Uuid}
    (own : row.deviceId = deviceId) :
    store.isNewest row =
      decide ((store.packagesOf deviceId).countP
        (row.id.toNat < ·.id.toNat) < maxUnconsumedKeyPackages) := by
  simp only [isNewest, packagesOf, List.countP_filter, own, Bool.and_comm]

private theorem packagesOf_cap (ascending : store.Ascending) (deviceId : Uuid) :
    (store.capKeyPackages deviceId).packagesOf deviceId =
      (store.packagesOf deviceId).drop
        ((store.packagesOf deviceId).length - maxUnconsumedKeyPackages) := by
  rw [← Paging.filter_countP_above (ascending.packagesOf deviceId)]
  simp only [packagesOf, unconsumed, capKeyPackages, List.filter_filter]
  refine List.filter_congr fun row _ => ?_
  by_cases own : row.deviceId = deviceId
  · have rank := isNewest_eq store own
    simp only [packagesOf, unconsumed, List.filter_filter] at rank
    rw [rank, own]
    cases row.consumed <;> simp
  · simp [beq_false_of_ne own]

private theorem packagesOf_cap_other {deviceId other : Uuid}
    (different : other ≠ deviceId) :
    (store.capKeyPackages deviceId).packagesOf other =
      store.packagesOf other := by
  simp only [packagesOf, unconsumed, capKeyPackages, List.filter_filter]
  refine List.filter_congr fun row _ => ?_
  by_cases own : row.deviceId = other
  · simp [own, beq_false_of_ne different]
  · simp [beq_false_of_ne own]

def beside (store : Store) (deviceId : Uuid) : List KeyPackageRow :=
  store.keyPackages.filter (·.deviceId != deviceId)

private theorem beside_cap (deviceId : Uuid) :
    (store.capKeyPackages deviceId).beside deviceId =
      store.beside deviceId := by
  simp only [beside, capKeyPackages, List.filter_filter]
  refine List.filter_congr fun row _ => ?_
  by_cases own : row.deviceId = deviceId
  · simp [own]
  · simp [own]

private theorem mem_keyPackages_cap {deviceId : Uuid} {row : KeyPackageRow}
    (listed : row ∈ store.keyPackages) (consumed : row.consumed = true) :
    row ∈ (store.capKeyPackages deviceId).keyPackages :=
  List.mem_filter.mpr ⟨listed, by simp [consumed]⟩

private theorem mem_keyPackages_consume {id : Uuid} {row : KeyPackageRow}
    (listed : row ∈ store.keyPackages) (consumed : row.consumed = true) :
    row ∈ (store.consume id).keyPackages := by
  refine List.mem_map.mpr ⟨row, listed, ?_⟩
  split
  · rw [← consumed]
  · rfl

private theorem length_packagesOf_consume (id deviceId : Uuid) :
    ((store.consume id).packagesOf deviceId).length ≤
      (store.packagesOf deviceId).length := by
  simp only [packagesOf, unconsumed, consume, List.filter_filter,
    ← List.countP_eq_length_filter, List.countP_map]
  refine List.countP_mono_left fun row _ => ?_
  simp only [Function.comp_apply]
  split
  · simp
  · exact fun held => held

private theorem packagesOf_append_other {row : KeyPackageRow} {deviceId : Uuid}
    (other : row.deviceId ≠ deviceId) :
    packagesOf { store with keyPackages := store.keyPackages ++ [row] }
        deviceId = store.packagesOf deviceId := by
  simp [packagesOf, unconsumed, List.filter_append, other]

private theorem beside_append {row : KeyPackageRow} :
    beside { store with keyPackages := store.keyPackages ++ [row] }
        row.deviceId = store.beside row.deviceId := by
  simp [beside, List.filter_append]

/-- A package with an id of its own is refused only for want of its user or
its device. -/
private theorem insertKeyPackage_of_fresh {row : KeyPackageRow}
    (fresh : ∀ other ∈ store.keyPackages, other.id ≠ row.id) :
    insertKeyPackage row store =
      if store.referencesHold
          (store.hasUser row.userId && store.hasDevice row.deviceId) then
        (.ok (), { store with keyPackages := store.keyPackages ++ [row] })
      else
        (.error violation, store) := by
  have unique : (!store.keyPackages.any (·.id == row.id)) = true := by
    simpa using fresh
  unfold insertKeyPackage
  rw [Effect.check_bind, if_pos unique, Effect.check_bind]
  rfl

end Store

/-- The device that a call in progress stores packages for. -/
def PackageTask.storing? : PackageTask → Option Uuid
  | .inserting _ deviceId _ => some deviceId
  | _ => none

namespace Packages

/-- A new row gets an id above all that are in the table. -/
def Rising (pool : Packages) : PackageEvent → Prop
  | .start _ => True
  | .turn index draw => ∀ task ∈ pool.tasks[index]?, inserts task = true →
      ∀ row ∈ pool.shared.keyPackages, row.id.toNat < draw.id.toNat

instance (pool : Packages) (event : PackageEvent) :
    Decidable (Rising pool event) :=
  match event with
  | .start _ => inferInstanceAs (Decidable True)
  | .turn index draw =>
      inferInstanceAs (Decidable (∀ task ∈ pool.tasks[index]?,
        inserts task = true →
          ∀ row ∈ pool.shared.keyPackages, row.id.toNat < draw.id.toNat))

section Turns

variable {backend : Backend} {store : Store} {task : PackageTask}
  {draw : PackageDraw}

private theorem advance_store (holds : Store → Prop) (same : holds store)
    (claims : task.storing? = none → ∀ id, holds (store.consume id))
    (trims : ∀ userId deviceId, task = .inserting userId deviceId [] →
      holds (store.capKeyPackages deviceId))
    (adds : ∀ userId deviceId package rest,
      task = .inserting userId deviceId (package :: rest) →
      store.referencesHold
        (store.hasUser userId && store.hasDevice deviceId) = true →
      holds { store with
        keyPackages := store.keyPackages ++
          [⟨draw.id, userId, deviceId, package, false, draw.now⟩] }) :
    holds (advance backend store task draw).1 := by
  cases task with
  | listing userId => exact same
  | selecting devices claimed =>
      cases devices with
      | nil => exact same
      | cons device rest =>
          simp only [advance]
          cases store.oldestUnconsumed device draw.preferred with
          | none => exact same
          | some row =>
              cases backend with
              | sqlite => exact same
              | postgres => exact claims rfl row.id
  | consuming row rest claimed => exact claims rfl row.id
  | returned claimed => exact same
  | inserting userId deviceId packages =>
      cases packages with
      | nil => exact trims userId deviceId rfl
      | cons package rest =>
          have added := adds userId deviceId package rest rfl
          have posted : (Store.insertKeyPackage ⟨draw.id, userId, deviceId,
              package, false, draw.now⟩).Post store fun _ => holds := by
            apply (Effect.readOnly_check _ _).post_bind
            · exact fun _ _ => same
            · intro _ _
              apply (Effect.readOnly_check _ _).post_bind
              · exact fun _ _ => same
              · exact fun _ passed =>
                  Effect.post_update (added (Effect.check_ok passed))
          exact Tasks.turn_post (fun outcome => holds outcome.1) posted
            (fun _ _ after => after) (fun _ _ after => after)
  | published => exact same
  | failed error => exact same

private theorem ascending_advance (ascending : store.Ascending)
    (rising : inserts task = true → ∀ row ∈ store.keyPackages,
      row.id.toNat < draw.id.toNat) :
    (advance backend store task draw).1.Ascending := by
  apply advance_store Store.Ascending ascending
  · exact fun _ => ascending.consume
  · exact fun _ deviceId _ => ascending.cap deviceId
  · rintro userId deviceId package rest rfl _
    exact ascending.append (rising rfl)

private theorem consumed_advance {row : KeyPackageRow}
    (listed : row ∈ store.keyPackages) (consumed : row.consumed = true) :
    row ∈ (advance backend store task draw).1.keyPackages := by
  apply advance_store (fun after => row ∈ after.keyPackages) listed
  · exact fun _ _ => Store.mem_keyPackages_consume listed consumed
  · exact fun _ _ _ => Store.mem_keyPackages_cap listed consumed
  · exact fun _ _ _ _ _ _ => List.mem_append_left _ listed

private theorem beside_advance {deviceId : Uuid}
    (storing : task.storing? = some deviceId) :
    (advance backend store task draw).1.beside deviceId =
      store.beside deviceId := by
  apply advance_store fun after => after.beside deviceId = _
  · rfl
  · intro claims
    rw [storing] at claims
    cases claims
  · rintro userId other rfl
    cases storing
    exact Store.beside_cap _
  · rintro userId other package rest rfl _
    cases storing
    exact Store.beside_append

/-- A call for a device that is there, and for a user that is there. -/
def admitted (store : Store) (deviceId : Uuid) : PackageTask → Prop
  | .inserting userId other _ => other = deviceId ∧
      store.referencesHold
        (store.hasUser userId && store.hasDevice other) = true
  | _ => False

private theorem storing_of_admitted {deviceId : Uuid}
    (stores : admitted store deviceId task) :
    task.storing? = some deviceId := by
  cases task with
  | inserting userId other packages => exact congrArg some stores.1
  | _ => exact stores.elim

private theorem admitted_advance (deviceId : Uuid) (other : PackageTask) :
    admitted (advance backend store task draw).1 deviceId other ↔
      admitted store deviceId other := by
  apply advance_store fun after =>
    admitted after deviceId other ↔ admitted store deviceId other
  · exact Iff.rfl
  · exact fun _ _ => Iff.rfl
  · exact fun _ _ _ => Iff.rfl
  · exact fun _ _ _ _ _ _ => Iff.rfl

private theorem length_packagesOf_advance {deviceId : Uuid}
    (idle : ¬admitted store deviceId task) (ascending : store.Ascending) :
    ((advance backend store task draw).1.packagesOf deviceId).length ≤
      (store.packagesOf deviceId).length := by
  apply advance_store fun after => (after.packagesOf deviceId).length ≤ _
  · exact le_refl _
  · exact fun _ id => Store.length_packagesOf_consume id deviceId
  · intro userId other _
    by_cases same : deviceId = other
    · rw [← same, Store.packagesOf_cap ascending, List.length_drop]
      exact Nat.sub_le _ _
    · rw [Store.packagesOf_cap_other same]
  · rintro userId other package rest rfl holds
    have different : other ≠ deviceId := fun same => idle ⟨same, holds⟩
    rw [Store.packagesOf_append_other different]

private theorem advance_inserting {userId deviceId : Uuid} {package : Bytes}
    {rest : List Bytes}
    (holds : store.referencesHold
      (store.hasUser userId && store.hasDevice deviceId) = true)
    (rising : ∀ row ∈ store.keyPackages, row.id.toNat < draw.id.toNat) :
    (advance backend store (.inserting userId deviceId (package :: rest))
      draw).2 = .inserting userId deviceId rest := by
  have fresh : ∀ other ∈ store.keyPackages, other.id ≠ draw.id := by
    intro other member same
    have below := rising other member
    rw [same] at below
    exact Nat.lt_irrefl _ below
  have inserted := @Store.insertKeyPackage_of_fresh store
    ⟨draw.id, userId, deviceId, package, false, draw.now⟩ fresh
  rw [if_pos holds] at inserted
  simp only [advance, Tasks.turn, inserted]

end Turns

/-- The newest packages stay, and all that go are older. -/
structure Trimmed (deviceId : Uuid) (before after : Store) : Prop where
  newest : after.packagesOf deviceId =
    (before.packagesOf deviceId).drop
      ((before.packagesOf deviceId).length - Store.maxUnconsumedKeyPackages)
  bounded : (after.packagesOf deviceId).length ≤
    Store.maxUnconsumedKeyPackages
  older : ∀ dropped ∈ before.packagesOf deviceId,
    dropped ∉ after.packagesOf deviceId →
    ∀ row ∈ after.packagesOf deviceId, dropped.id.toNat < row.id.toNat

private theorem trimmed_cap {store : Store} (ascending : store.Ascending)
    (deviceId : Uuid) :
    Trimmed deviceId store (store.capKeyPackages deviceId) := by
  have newest := Store.packagesOf_cap ascending deviceId
  refine ⟨newest, ?_, ?_⟩
  · rw [newest, List.length_drop]
    omega
  · intro dropped listed gone row kept
    rw [newest] at gone kept
    have ordered := ascending.packagesOf deviceId
    rw [← List.take_append_drop ((store.packagesOf deviceId).length -
      Store.maxUnconsumedKeyPackages) (store.packagesOf deviceId)]
      at listed ordered
    rcases List.mem_append.mp listed with first | last
    · exact (List.pairwise_append.mp ordered).2.2 dropped first row kept
    · exact absurd last gone

/-- What an event leaves of the pools.  `stored` is about the last statement of
a call that stores packages. -/
structure PoolKept (backend : Backend) (pool : Packages)
    (event : PackageEvent) : Prop where
  consumed : ∀ row ∈ pool.shared.keyPackages, row.consumed = true →
    row ∈ ((machine backend).step pool event).shared.keyPackages ∧
    ∀ other ∈ ((machine backend).step pool event).shared.keyPackages,
      other.id = row.id → other.consumed = true
  others : ∀ index draw task deviceId, event = .turn index draw →
    pool.tasks[index]? = some task → task.storing? = some deviceId →
    ((machine backend).step pool event).shared.beside deviceId =
      pool.shared.beside deviceId
  stored : ∀ index draw userId deviceId, event = .turn index draw →
    pool.tasks[index]? = some (.inserting userId deviceId []) →
    ((machine backend).step pool event).tasks[index]? = some .published ∧
      Trimmed deviceId pool.shared
        ((machine backend).step pool event).shared

private theorem consumed_step (backend : Backend) {pool : Packages}
    (event : PackageEvent) {row : KeyPackageRow}
    (listed : row ∈ pool.shared.keyPackages) (consumed : row.consumed = true) :
    row ∈ ((machine backend).step pool event).shared.keyPackages := by
  cases event with
  | start call => exact listed
  | turn index draw =>
      cases found : pool.tasks[index]? with
      | none =>
          rw [Tasks.Machine.step_absent found]
          exact listed
      | some task =>
          rw [Tasks.Machine.step_turn found]
          exact consumed_advance listed consumed

private theorem ascending_step {backend : Backend} {pool : Packages}
    {event : PackageEvent} (ascending : pool.shared.Ascending)
    (rising : Rising pool event) :
    ((machine backend).step pool event).shared.Ascending := by
  cases event with
  | start call => exact ascending
  | turn index draw =>
      cases found : pool.tasks[index]? with
      | none =>
          rw [Tasks.Machine.step_absent found]
          exact ascending
      | some task =>
          rw [Tasks.Machine.step_turn found]
          exact ascending_advance ascending (rising task found)

private theorem poolKept_of_ascending {backend : Backend} {pool : Packages}
    {event : PackageEvent} (ascending : pool.shared.Ascending)
    (rising : Rising pool event) : PoolKept backend pool event where
  consumed := by
    intro row listed consumed
    have kept := consumed_step backend event listed consumed
    refine ⟨kept, fun other also same => ?_⟩
    rwa [(ascending_step ascending rising).eq_of_id also kept same]
  others := by
    rintro index draw task deviceId rfl found storing
    rw [Tasks.Machine.step_turn found]
    exact beside_advance storing
  stored := by
    rintro index draw userId deviceId rfl found
    rw [Tasks.Machine.step_turn found]
    exact ⟨Tasks.Machine.turned_found found draw,
      trimmed_cap ascending deviceId⟩

/-- A device for which no call stores packages has no more than the cap. -/
def Capped (pool : Packages) : Prop :=
  ∀ deviceId, (∀ task ∈ pool.tasks, task.storing? ≠ some deviceId) →
    (pool.shared.packagesOf deviceId).length ≤ Store.maxUnconsumedKeyPackages

/-- Calls that are not admitted need no exception: they add nothing. -/
structure Within (pool : Packages) : Prop where
  ascending : pool.shared.Ascending
  capped : ∀ deviceId,
    (∀ task ∈ pool.tasks, ¬admitted pool.shared deviceId task) →
    (pool.shared.packagesOf deviceId).length ≤ Store.maxUnconsumedKeyPackages

private theorem Within.toCapped {pool : Packages} (within : Within pool) :
    Capped pool := by
  intro deviceId idle
  apply within.capped deviceId
  exact fun task member stores =>
    idle task member (storing_of_admitted stores)

theorem Within.started {pool : Packages} (within : Within pool)
    (backend : Backend) (call : PackageCall) :
    Within ((machine backend).started pool call) where
  ascending := within.ascending
  capped := by
    intro deviceId idle
    apply within.capped deviceId
    exact fun task member => idle task (List.mem_append_left _ member)

theorem Within.turned {backend : Backend} {pool : Packages} {index : ℕ}
    {task : PackageTask} (within : Within pool)
    (found : pool.tasks[index]? = some task) (draw : PackageDraw)
    (rising : Rising pool (.turn index draw)) :
    Within ((machine backend).turned pool index task draw) where
  ascending := ascending_advance within.ascending (rising task found)
  capped := by
    intro deviceId idle
    have own : ¬admitted pool.shared deviceId
        (advance backend pool.shared task draw).2 := by
      have last := idle (advance backend pool.shared task draw).2
        (List.mem_of_getElem? (Tasks.Machine.turned_found found draw))
      exact fun stores => last ((admitted_advance deviceId _).mpr stores)
    by_cases stores : admitted pool.shared deviceId task
    · -- The call has come to its end with this turn.
      cases task with
      | inserting userId other packages =>
          obtain ⟨rfl, holds⟩ := stores
          cases packages with
          | nil => exact (trimmed_cap within.ascending other).bounded
          | cons package rest =>
              rw [advance_inserting holds (rising _ found rfl)] at own
              exact absurd ⟨rfl, holds⟩ own
      | _ => exact stores.elim
    · refine Nat.le_trans
        (length_packagesOf_advance stores within.ascending) ?_
      apply within.capped deviceId
      intro other member storing
      rcases Slots.mem_iff_of_found found other |>.mp member with rfl | rest
      · exact stores storing
      · refine idle other ?_ ((admitted_advance deviceId other).mpr storing)
        exact (Slots.mem_set_of_found found _ other).mpr (.inr rest)

/-- What a run leaves of the pools, in each of its steps and in every state. -/
structure PoolRun (backend : Backend) (store : Store)
    (events : List PackageEvent) : Prop where
  each : EventRun.Each (machine backend).step (PoolKept backend)
    { shared := store } events
  capped : (∀ deviceId, (store.packagesOf deviceId).length ≤
      Store.maxUnconsumedKeyPackages) →
    EventRun.Always (machine backend).step Capped { shared := store } events

theorem keyPackage_pools (backend : Backend) {store : Store}
    (ascending : store.Ascending) {events : List PackageEvent}
    (rising : EventRun.Each (machine backend).step Rising
      { shared := store } events) : PoolRun backend store events where
  each := by
    have kept (pool : Packages) (event : PackageEvent)
        (ascending : pool.shared.Ascending) (rising : Rising pool event) :
        ((machine backend).step pool event).shared.Ascending :=
      ascending_step ascending rising
    have always := EventRun.always_of_step kept ascending rising
    exact rising.under (fun _ _ => poolKept_of_ascending) always
  capped := by
    intro initially
    have first : Within { shared := store } :=
      ⟨ascending, fun deviceId _ => initially deviceId⟩
    have within := Tasks.Machine.always_of_turns
      (fun _ call holds _ => Within.started holds backend call)
      (fun _ _ _ draw found holds rising => holds.turned found draw rising)
      first rising
    exact within.imp fun _ holds => holds.toCapped

def largeBatch : List PackageEvent :=
  .start (.publish 1 10 (List.replicate 35 [9])) ::
    (List.range 36).map (fun turn =>
      .turn 0 ⟨BitVec.ofNat 128 (200 + turn), 2000, 0⟩) ++
    .start (.claim 1) :: List.replicate 4 (.turn 1 ⟨0, 2000, 0⟩)

theorem keyPackage_pools_largeBatch :
    PoolRun .sqlite stockedStore largeBatch :=
  keyPackage_pools .sqlite (by decide) (by decide +kernel)

end Packages

end Accord

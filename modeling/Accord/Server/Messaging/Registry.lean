import Accord.Library.EventRun
import Accord.Library.Nested
import Accord.Types.Text

/-! The routing tables of the delivery hub: who listens to a group, which
channel a device listens on, and which groups a device has to be removed from
when it leaves. -/

namespace Accord

structure Registry (Sender : Type) where
  groupSubs : Nested Uuid Uuid Sender := ∅
  deviceSubs : Mapping Uuid Sender := ∅
  deviceGroups : Mapping Uuid (List Uuid) := ∅

namespace Registry

variable {Sender : Type}

def register (registry : Registry Sender) (device : Uuid)
    (groups : List Uuid) (sender : Sender) : Registry Sender where
  groupSubs := registry.groupSubs.putAll groups device sender
  deviceSubs := registry.deviceSubs.insert device sender
  deviceGroups := registry.deviceGroups.insert device groups

def unregister (registry : Registry Sender) (device : Uuid) :
    Registry Sender where
  groupSubs :=
    match registry.deviceGroups.lookup device with
    | some groups => registry.groupSubs.dropAll groups device
    | none => registry.groupSubs
  deviceSubs := registry.deviceSubs.erase device
  deviceGroups := registry.deviceGroups.erase device

def subscribe (registry : Registry Sender) (device group : Uuid) :
    Registry Sender :=
  match registry.deviceSubs.lookup device with
  | none => registry
  | some sender =>
      let groups := (registry.deviceGroups.lookup device).getD []
      { registry with
        groupSubs := registry.groupSubs.put group device sender
        deviceGroups := registry.deviceGroups.insert device
          (if groups.contains group then groups else groups ++ [group]) }

def isConnected (registry : Registry Sender) (device : Uuid) : Bool :=
  (registry.deviceSubs.lookup device).isSome

/-! What each operation leaves at a group and at a device. -/

def subscription (registry : Registry Sender) (group device : Uuid) :
    Option Sender :=
  registry.groupSubs.get group device

def senderOf (registry : Registry Sender) (device : Uuid) : Option Sender :=
  registry.deviceSubs.lookup device

def groupsOf (registry : Registry Sender) (device : Uuid) : List Uuid :=
  (registry.deviceGroups.lookup device).getD []

section Lookups

variable (registry : Registry Sender) (device other group : Uuid)
  (groups : List Uuid) (sender : Sender)

theorem subscription_register :
    (registry.register device groups sender).subscription group other =
      if group ∈ groups ∧ other = device then some sender
      else registry.subscription group other :=
  Nested.get_putAll _ _ _ _ _ _

theorem senderOf_register :
    (registry.register device groups sender).senderOf other =
      if other = device then some sender else registry.senderOf other :=
  Mapping.lookup_insert_eq _ _ _ _

theorem groupsOf_register :
    (registry.register device groups sender).groupsOf other =
      if other = device then groups else registry.groupsOf other := by
  unfold groupsOf register
  rw [Mapping.lookup_insert_eq]
  split <;> rfl

theorem subscription_unregister :
    (registry.unregister device).subscription group other =
      if group ∈ registry.groupsOf device ∧ other = device then none
      else registry.subscription group other := by
  unfold subscription unregister groupsOf
  cases registry.deviceGroups.lookup device with
  | none => simp
  | some groups => exact Nested.get_dropAll _ _ _ _ _

theorem senderOf_unregister :
    (registry.unregister device).senderOf other =
      if other = device then none else registry.senderOf other :=
  Mapping.lookup_erase_eq _ _ _

theorem groupsOf_unregister :
    (registry.unregister device).groupsOf other =
      if other = device then [] else registry.groupsOf other := by
  unfold groupsOf unregister
  rw [Mapping.lookup_erase_eq]
  split <;> rfl

theorem subscribe_disconnected
    (disconnected : registry.senderOf device = none) :
    registry.subscribe device group = registry := by
  unfold senderOf at disconnected
  unfold subscribe
  rw [disconnected]

theorem senderOf_subscribe :
    (registry.subscribe device group).senderOf other =
      registry.senderOf other := by
  unfold subscribe
  split <;> rfl

variable {registry device sender}

theorem subscription_subscribe
    (connected : registry.senderOf device = some sender) (target : Uuid) :
    (registry.subscribe device group).subscription target other =
      if target = group ∧ other = device then some sender
      else registry.subscription target other := by
  unfold senderOf at connected
  unfold subscribe
  rw [connected]
  exact Nested.get_put _ _ _ _ _ _

theorem mem_groupsOf_subscribe
    (connected : registry.senderOf device = some sender) (target : Uuid) :
    target ∈ (registry.subscribe device group).groupsOf other ↔
      (target = group ∧ other = device) ∨
        target ∈ registry.groupsOf other := by
  unfold senderOf at connected
  unfold subscribe groupsOf
  rw [connected]
  simp only
  rw [Mapping.lookup_insert_eq]
  by_cases same : other = device
  · subst same
    rw [if_pos rfl]
    by_cases listed :
        group ∈ (AList.lookup other registry.deviceGroups).getD []
    · simp only [Option.getD_some, List.contains_eq_mem, listed,
        decide_true, if_true, and_true]
      constructor
      · exact Or.inr
      · intro either
        cases either with
        | inl equality => exact equality ▸ listed
        | inr present => exact present
    · simp [listed, or_comm]
  · simp [same]

end Lookups

/-- The three tables describe one relation, every stored channel is the
device's current one, and no group has an empty entry. -/
structure Consistent (registry : Registry Sender) : Prop where
  indexed : ∀ group device,
    (registry.subscription group device).isSome = true ↔
      group ∈ registry.groupsOf device
  current : ∀ group device sender,
    registry.subscription group device = some sender →
      registry.senderOf device = some sender
  tidy : registry.groupSubs.Tidy

structure Absent (registry : Registry Sender) (device : Uuid) : Prop where
  group : ∀ group, registry.subscription group device = none
  sender : registry.deviceSubs.lookup device = none
  groups : registry.deviceGroups.lookup device = none

variable {registry : Registry Sender}

theorem consistent_empty : ({} : Registry Sender).Consistent where
  indexed := by
    intro group device
    change (none : Option Sender).isSome = true ↔ group ∈ []
    simp
  current := by
    intro group device sender found
    cases found
  tidy := Nested.tidy_empty

/-- Registering keeps the tables consistent exactly when the new list covers
the groups the device is still listed under. -/
theorem Consistent.register_iff (consistent : registry.Consistent)
    (device : Uuid) (groups : List Uuid) (sender : Sender) :
    (registry.register device groups sender).Consistent ↔
      ∀ group ∈ registry.groupsOf device, group ∈ groups := by
  constructor
  · intro after group listed
    have before := (consistent.indexed group device).mpr listed
    have indexed := after.indexed group device
    rw [subscription_register, groupsOf_register, if_pos rfl] at indexed
    by_cases covered : group ∈ groups
    · exact covered
    · rw [if_neg (by simp [covered]), before] at indexed
      exact indexed.mp rfl
  · intro covers
    constructor
    · intro group other
      rw [subscription_register, groupsOf_register]
      by_cases same : other = device
      · subst same
        by_cases covered : group ∈ groups
        · simp [covered]
        · have unlisted : group ∉ registry.groupsOf other :=
            fun listed => covered (covers group listed)
          have before := consistent.indexed group other
          simp [covered, before, unlisted]
      · simp only [same, and_false, if_false]
        exact consistent.indexed group other
    · intro group other current found
      rw [subscription_register] at found
      rw [senderOf_register]
      by_cases same : other = device
      · subst same
        by_cases covered : group ∈ groups
        · simpa [covered] using found
        · rw [if_neg (by simp [covered])] at found
          have listed : group ∈ registry.groupsOf other :=
            (consistent.indexed group other).mp (by rw [found]; rfl)
          exact absurd (covers group listed) covered
      · rw [if_neg (by simp [same])] at found
        rw [if_neg same]
        exact consistent.current group other current found
    · exact consistent.tidy.putAll groups device sender

theorem Consistent.subscribe (consistent : registry.Consistent)
    (device group : Uuid) : (registry.subscribe device group).Consistent := by
  cases connected : registry.senderOf device with
  | none =>
      rw [subscribe_disconnected _ _ _ connected]
      exact consistent
  | some sender =>
      constructor
      · intro target other
        rw [subscription_subscribe _ _ connected,
          mem_groupsOf_subscribe _ _ connected]
        by_cases touched : target = group ∧ other = device
        · simp [touched]
        · simp only [touched, if_false, false_or]
          exact consistent.indexed target other
      · intro target other current found
        rw [subscription_subscribe _ _ connected] at found
        rw [senderOf_subscribe]
        by_cases touched : target = group ∧ other = device
        · rw [if_pos touched] at found
          cases found
          rw [touched.2]
          exact connected
        · rw [if_neg touched] at found
          exact consistent.current target other current found
      · unfold senderOf at connected
        unfold Registry.subscribe
        rw [connected]
        exact consistent.tidy.put group device sender

private theorem Consistent.absent_unregister (consistent : registry.Consistent)
    (device : Uuid) : (registry.unregister device).Absent device where
  group := by
    intro group
    rw [subscription_unregister]
    by_cases listed : group ∈ registry.groupsOf device
    · simp [listed]
    · rw [if_neg (by simp [listed])]
      rw [← consistent.indexed] at listed
      simpa using listed
  sender := by
    unfold unregister
    rw [Mapping.lookup_erase_eq, if_pos rfl]
  groups := by
    unfold unregister
    rw [Mapping.lookup_erase_eq, if_pos rfl]

theorem Consistent.unregister (consistent : registry.Consistent)
    (device : Uuid) : (registry.unregister device).Consistent where
  indexed := by
    intro group other
    rw [groupsOf_unregister]
    by_cases same : other = device
    · subst same
      rw [(consistent.absent_unregister other).group]
      simp
    · rw [subscription_unregister, if_neg (by simp [same]), if_neg same]
      exact consistent.indexed group other
  current := by
    intro group other sender found
    by_cases same : other = device
    · subst same
      rw [(consistent.absent_unregister other).group] at found
      cases found
    · rw [subscription_unregister, if_neg (by simp [same])] at found
      rw [senderOf_unregister, if_neg same]
      exact consistent.current group other sender found
  tidy := by
    unfold Registry.unregister
    cases registry.deviceGroups.lookup device with
    | none => exact consistent.tidy
    | some groups => exact consistent.tidy.dropAll groups device

/-! Runs of the three operations. -/

inductive Op (Sender : Type) where
  | register (device : Uuid) (groups : List Uuid) (sender : Sender)
  | subscribe (device group : Uuid)
  | unregister (device : Uuid)

def step (registry : Registry Sender) : Op Sender → Registry Sender
  | .register device groups sender => registry.register device groups sender
  | .subscribe device group => registry.subscribe device group
  | .unregister device => registry.unregister device

/-- A device that is registered again is given every group it is still listed
under. -/
def Covers (registry : Registry Sender) : Op Sender → Prop
  | .register device groups _ =>
      ∀ group ∈ registry.groupsOf device, group ∈ groups
  | _ => True

def LeavesNothing (registry : Registry Sender) : Op Sender → Prop
  | .unregister device => (registry.unregister device).Absent device
  | _ => True

theorem Consistent.step_iff (registry : Registry Sender) (op : Op Sender)
    (consistent : registry.Consistent) :
    (registry.step op).Consistent ↔ registry.Covers op := by
  cases op with
  | register device groups sender =>
      exact consistent.register_iff device groups sender
  | subscribe device group =>
      exact iff_of_true (consistent.subscribe device group) trivial
  | unregister device =>
      exact iff_of_true (consistent.unregister device) trivial

private theorem Consistent.leavesNothing (registry : Registry Sender)
    (op : Op Sender) (consistent : registry.Consistent) :
    registry.LeavesNothing op := by
  cases op with
  | unregister device => exact consistent.absent_unregister device
  | register => trivial
  | subscribe => trivial

/-- The tables stay consistent, and a device that unregisters leaves nothing
behind, exactly in the runs that never drop a group by registering again. -/
theorem consistent_iff_covering (ops : List (Op Sender)) :
    (EventRun.Always step Consistent {} ops ∧
        EventRun.Each step LeavesNothing {} ops) ↔
      EventRun.Each step Covers {} ops := by
  have initially : ({} : Registry Sender).Consistent := consistent_empty
  rw [← EventRun.always_iff_each Consistent.step_iff initially ops]
  constructor
  · exact And.left
  · intro always
    exact ⟨always, always.each Consistent.leavesNothing⟩

/-- A device opens a stream as a member of group 1, and again after it moved
to group 2. -/
def movedDevice : List (Op ℕ) := [
  .register 7 [1] 0, .register 7 [2] 1, .unregister 7]

theorem movedDevice_stale :
    ¬ (EventRun.Always step Consistent {} movedDevice ∧
        EventRun.Each step LeavesNothing {} movedDevice) ∧
      (EventRun.run step {} movedDevice).subscription 1 7 = some 0 := by
  have stale :
      (EventRun.run step {} movedDevice).subscription 1 7 = some 0 := by
    decide
  refine ⟨?_, stale⟩
  intro claimed
  have listed := (claimed.1.last.indexed 1 7).mp (by rw [stale]; rfl)
  exact absurd listed (by decide)

end Registry

end Accord

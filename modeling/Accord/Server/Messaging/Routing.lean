import Mathlib.Data.List.Count
import Accord.Server.Messaging.Mailbox

/-! Which streams a delivery reaches.  While membership is fixed and streams
close alone, a message to a group arrives once at every connected device of
its members. -/

namespace Accord

namespace Mailroom

variable {mail : Mailroom}

section Arrivals

/-- The device listens on a live stream of its own. -/
structure Listens (mail : Mailroom) (device : Uuid) (channel : ℕ) : Prop where
  sender : mail.registry.senderOf device = some channel
  stream : ∃ stream, mail.streams[channel]? = some stream ∧
    stream.live = true ∧ stream.claims.deviceId = device

private theorem arrivals_append (first second : List (ℕ × ServerMessage)) :
    mail.arrivals (first ++ second) =
      mail.arrivals first ++ mail.arrivals second :=
  List.filterMap_append

private theorem arrivals_of_live {channel : ℕ} {stream : MailStream}
    (stored : mail.streams[channel]? = some stream)
    (live : stream.live = true) (message : ServerMessage) :
    mail.arrivals [(channel, message)] =
      [⟨stream.claims.deviceId, message⟩] := by
  simp [arrivals, stored, live]

theorem arrivals_deliverToDevice {device : Uuid} {channel : ℕ}
    (listens : mail.Listens device channel) (messages : List ServerMessage) :
    mail.arrivals
        (messages.flatMap (mail.registry.deliverToDevice device)) =
      messages.map (Receipt.mk device) := by
  obtain ⟨stream, stored, live, rfl⟩ := listens.stream
  have sender := listens.sender
  unfold Registry.senderOf at sender
  induction messages with
  | nil => rfl
  | cons message rest induction =>
      have offered : mail.registry.deliverToDevice stream.claims.deviceId
          message = [(channel, message)] := by
        unfold Registry.deliverToDevice
        rw [sender]
      rw [List.flatMap_cons, offered, arrivals_append, induction,
        arrivals_of_live stored live]
      rfl

theorem count_map_receipt (device other : Uuid) (message : ServerMessage)
    (messages : List ServerMessage) :
    (messages.map (Receipt.mk device)).count ⟨other, message⟩ =
      if other = device then messages.count message else 0 := by
  induction messages with
  | nil => simp
  | cons first rest induction =>
      rw [List.map_cons, List.count_cons, induction]
      by_cases same : other = device
      · subst same
        simp [List.count_cons]
      · simp [same, Ne.symm same]

def audience (registry : Registry ℕ) (group exclude : Uuid) : List Uuid :=
  ((registry.groupSubs.row group).entries.filter
    fun entry => some entry.1 != some exclude).map Sigma.fst

private theorem mem_audience {registry : Registry ℕ}
    {group exclude device : Uuid} :
    device ∈ audience registry group exclude ↔
      device ≠ exclude ∧
        (registry.subscription group device).isSome = true := by
  unfold audience Registry.subscription Nested.get
  rw [List.mem_map]
  constructor
  · intro found
    obtain ⟨⟨key, channel⟩, kept, rfl⟩ := found
    rw [List.mem_filter] at kept
    have included : key ≠ exclude := by simpa using kept.2
    have present : AList.lookup key (registry.groupSubs.row group) =
        some channel := AList.mem_lookup_iff.mpr kept.1
    exact ⟨included, by rw [present]; rfl⟩
  · intro found
    obtain ⟨included, present⟩ := found
    obtain ⟨channel, subscribed⟩ := Option.isSome_iff_exists.mp present
    refine ⟨⟨device, channel⟩, ?_, rfl⟩
    rw [List.mem_filter]
    exact ⟨AList.mem_lookup_iff.mp subscribed, by simpa using included⟩

private theorem nodup_audience (registry : Registry ℕ) (group exclude : Uuid) :
    (audience registry group exclude).Nodup := by
  have keys : (registry.groupSubs.row group).entries.NodupKeys :=
    (registry.groupSubs.row group).nodupKeys
  exact List.NodupKeys.sublist List.filter_sublist keys

private theorem arrivals_deliverToGroup {group : Uuid}
    (subscribed : ∀ device channel,
      mail.registry.subscription group device = some channel →
      mail.Listens device channel)
    (message : ServerMessage) (exclude : Uuid) :
    mail.arrivals (mail.registry.deliverToGroup group message
        (some exclude)) =
      (audience mail.registry group exclude).map (⟨·, message⟩) := by
  unfold arrivals Registry.deliverToGroup audience
  rw [List.filterMap_map, List.map_map, ← List.filterMap_eq_map]
  apply List.filterMap_congr
  intro entry kept
  have present : mail.registry.subscription group entry.1 =
      some entry.2 :=
    AList.mem_lookup_iff.mpr (List.mem_filter.mp kept).1
  obtain ⟨stream, stored, live, same⟩ := (subscribed _ _ present).stream
  simp [stored, live, same]

/-- A message to a group arrives once at every device that is subscribed to
it, the excluded one apart. -/
theorem count_arrivals_deliverToGroup {group : Uuid}
    (subscribed : ∀ device channel,
      mail.registry.subscription group device = some channel →
      mail.Listens device channel)
    (message : ServerMessage) (exclude device : Uuid)
    (other : ServerMessage) :
    (mail.arrivals (mail.registry.deliverToGroup group message
        (some exclude))).count ⟨device, other⟩ =
      if other = message ∧ device ∈ audience mail.registry group exclude
      then 1 else 0 := by
  rw [arrivals_deliverToGroup subscribed]
  by_cases same : other = message
  · subst same
    have injective : Function.Injective
        (fun device : Uuid => Receipt.mk device other) := by
      intro first second equality
      cases equality
      rfl
    rw [List.count_map_of_injective _ _ injective,
      (nodup_audience _ _ _).count]
    simp
  · rw [if_neg (fun both => same both.1), List.count_eq_zero]
    intro listed
    obtain ⟨_, _, equality⟩ := List.mem_map.mp listed
    cases equality
    exact same rfl

end Arrivals

/-! Streams and routing tables. -/

/-- Membership being fixed, every registered device listens on a live stream
to all groups of its user, and every live stream is registered. -/
structure WellRouted (mail : Mailroom) : Prop where
  keyed : (mail.store.devices.map (·.id)).Nodup
  authentic : ∀ (index : ℕ) (stream : MailStream),
    mail.streams[index]? = some stream → ∃ row ∈ mail.store.devices,
      row.id = stream.claims.deviceId ∧ row.userId = stream.claims.sub
  groups : ∀ (index : ℕ) (stream : MailStream),
    mail.streams[index]? = some stream →
    stream.groups = mail.store.groupIdsForUser stream.claims.sub
  consistent : mail.registry.Consistent
  sender : ∀ device channel,
    mail.registry.senderOf device = some channel →
    ∃ stream, mail.streams[channel]? = some stream ∧
      stream.live = true ∧ stream.claims.deviceId = device ∧
      mail.registry.groupsOf device = stream.groups
  connected : ∀ (index : ℕ) (stream : MailStream),
    mail.streams[index]? = some stream → stream.live = true →
    ∃ channel, mail.registry.senderOf stream.claims.deviceId = some channel

theorem isConnected_eq (registry : Registry ℕ) (device : Uuid) :
    registry.isConnected device = (registry.senderOf device).isSome := rfl

namespace WellRouted

variable (routed : mail.WellRouted)

include routed

theorem listens {device : Uuid} {channel : ℕ}
    (sender : mail.registry.senderOf device = some channel) :
    mail.Listens device channel := by
  obtain ⟨stream, stored, live, same, _⟩ := routed.sender device channel sender
  exact ⟨sender, stream, stored, live, same⟩

theorem owner {device user : Uuid} {row : DeviceRow}
    (listed : row ∈ mail.store.devices) (named : row.id = device)
    (owned : ∃ other ∈ mail.store.devices,
      other.id = device ∧ other.userId = user) : row.userId = user := by
  obtain ⟨other, otherListed, otherNamed, rfl⟩ := owned
  have same : row = other := List.inj_on_of_nodup_map routed.keyed listed
    otherListed (named.trans otherNamed.symm)
  rw [same]

theorem subscribed {group device : Uuid}
    (member : device ∈ mail.store.deviceIdsForGroup group)
    (connected : mail.registry.isConnected device = true) :
    (mail.registry.subscription group device).isSome = true := by
  obtain ⟨channel, sender⟩ := Option.isSome_iff_exists.mp connected
  obtain ⟨stream, stored, _, same, groups⟩ :=
    routed.sender device channel sender
  unfold Store.deviceIdsForGroup at member
  obtain ⟨row, kept, named⟩ := List.mem_map.mp member
  obtain ⟨listed, current⟩ := List.mem_filter.mp kept
  have authentic := routed.authentic channel stream stored
  rw [same] at authentic
  have user := routed.owner listed named authentic
  rw [Bool.and_eq_true, user] at current
  rw [routed.consistent.indexed, groups, routed.groups channel stream stored]
  exact Store.mem_groupIdsForUser.mpr current.1

theorem mem_audience_iff {group exclude device : Uuid}
    (member : device ∈ mail.store.deviceIdsForGroup group)
    (other : device ≠ exclude) :
    device ∈ audience mail.registry group exclude ↔
      mail.registry.isConnected device = true := by
  rw [mem_audience]
  constructor
  · intro found
    obtain ⟨channel, present⟩ := Option.isSome_iff_exists.mp found.2
    have sender := routed.consistent.current group device channel present
    rw [isConnected_eq, sender]
    rfl
  · intro connected
    exact ⟨other, routed.subscribed member connected⟩

theorem of_same {after : Mailroom} (same : mail.store.SameMembers after.store)
    (registry : after.registry = mail.registry)
    (streams : after.streams = mail.streams) : after.WellRouted where
  keyed := by
    rw [same.devices]
    exact routed.keyed
  authentic := by
    rw [same.devices, streams]
    exact routed.authentic
  groups := by
    intro index stream stored
    rw [streams] at stored
    rw [same.groupIdsForUser]
    exact routed.groups index stream stored
  consistent := by
    rw [registry]
    exact routed.consistent
  sender := by
    rw [registry, streams]
    exact routed.sender
  connected := by
    rw [registry, streams]
    exact routed.connected

theorem lookup {claims : Claims}
    (authentic : ∃ row ∈ mail.store.devices,
      row.id = claims.deviceId ∧ row.userId = claims.sub) :
    (mail.lookup claims).WellRouted where
  keyed := routed.keyed
  authentic := by
    intro index stream stored
    cases Slots.append_cases stored with
    | inl before => exact routed.authentic index stream before
    | inr added =>
        obtain ⟨_, rfl⟩ := added
        exact authentic
  groups := by
    intro index stream stored
    cases Slots.append_cases stored with
    | inl before => exact routed.groups index stream before
    | inr added =>
        obtain ⟨_, rfl⟩ := added
        rfl
  consistent := routed.consistent
  sender := by
    intro device channel sender
    obtain ⟨stream, stored, rest⟩ := routed.sender device channel sender
    exact ⟨stream, Slots.getElem?_append_of_found stored _, rest⟩
  connected := by
    intro index stream stored live
    cases Slots.append_cases stored with
    | inl before => exact routed.connected index stream before live
    | inr added =>
        obtain ⟨_, rfl⟩ := added
        cases live

end WellRouted

theorem inPhase_found {index : ℕ} {phase : StreamPhase} {stream : MailStream}
    (found : mail.inPhase index phase = some stream) :
    mail.streams[index]? = some stream ∧ stream.phase = phase := by
  unfold inPhase at found
  rw [Option.filter_eq_some_iff] at found
  exact ⟨found.1, by simpa using found.2⟩

section StreamSteps

variable {index : ℕ} {stream : MailStream}

private theorem WellRouted.authentic_setPhase (routed : mail.WellRouted)
    (found : mail.streams[index]? = some stream) (phase : StreamPhase) :
    ∀ (other : ℕ) (another : MailStream),
      (mail.setPhase index stream phase)[other]? = some another →
      (∃ row ∈ mail.store.devices, row.id = another.claims.deviceId ∧
        row.userId = another.claims.sub) ∧
      another.groups = mail.store.groupIdsForUser another.claims.sub := by
  intro other another stored
  cases Slots.set_cases found stored with
  | inl changed =>
      obtain ⟨_, rfl⟩ := changed
      exact ⟨routed.authentic index stream found,
        routed.groups index stream found⟩
  | inr kept =>
      exact ⟨routed.authentic other another kept.2,
        routed.groups other another kept.2⟩

private theorem WellRouted.sender_setPhase (routed : mail.WellRouted)
    (found : mail.streams[index]? = some stream) (phase : StreamPhase)
    {device : Uuid} {channel : ℕ}
    (sender : mail.registry.senderOf device = some channel)
    (elsewhere : stream.live = true → stream.claims.deviceId ≠ device) :
    ∃ another, (mail.setPhase index stream phase)[channel]? = some another ∧
      another.live = true ∧ another.claims.deviceId = device ∧
      mail.registry.groupsOf device = another.groups := by
  obtain ⟨another, stored, live, same, groups⟩ :=
    routed.sender device channel sender
  have apart : channel ≠ index := by
    intro equality
    rw [equality, found] at stored
    cases stored
    exact elsewhere live same
  refine ⟨another, ?_, live, same, groups⟩
  exact (Slots.getElem?_set_of_found found _ _).trans
    ((if_neg apart).trans stored)

private theorem WellRouted.groups_eq (routed : mail.WellRouted)
    (found : mail.streams[index]? = some stream) {other : ℕ}
    {another : MailStream} (also : mail.streams[other]? = some another)
    (device : another.claims.deviceId = stream.claims.deviceId) :
    another.groups = stream.groups := by
  obtain ⟨row, listed, named, user⟩ := routed.authentic index stream found
  have owned := routed.authentic other another also
  rw [device] at owned
  have same := routed.owner listed named owned
  rw [routed.groups index stream found, routed.groups other another also,
    ← same, user]

theorem WellRouted.register (routed : mail.WellRouted)
    (found : mail.streams[index]? = some stream)
    (listed : stream.phase = .listed) :
    ({ mail with
      registry := mail.registry.register stream.claims.deviceId
        stream.groups index
      streams := mail.setPhase index stream .registered } :
        Mailroom).WellRouted where
  keyed := routed.keyed
  authentic := fun other another stored =>
    (routed.authentic_setPhase found _ other another stored).1
  groups := fun other another stored =>
    (routed.authentic_setPhase found _ other another stored).2
  consistent := by
    rw [routed.consistent.register_iff]
    intro group member
    have present := (routed.consistent.indexed group _).mpr member
    obtain ⟨channel, subscribed⟩ := Option.isSome_iff_exists.mp present
    have sender := routed.consistent.current group _ channel subscribed
    obtain ⟨another, stored, _, same, groups⟩ :=
      routed.sender _ channel sender
    rw [groups, routed.groups_eq found stored same] at member
    exact member
  sender := by
    intro device channel sender
    rw [Registry.senderOf_register] at sender
    rw [Registry.groupsOf_register]
    split at sender
    · rename_i same
      cases sender
      refine ⟨{ stream with phase := .registered }, ?_, rfl, same.symm, ?_⟩
      · exact (Slots.getElem?_set_of_found found _ _).trans (if_pos rfl)
      · rw [if_pos same]
    · rename_i different
      rw [if_neg different]
      refine routed.sender_setPhase found _ sender ?_
      intro live
      unfold MailStream.live at live
      rw [listed] at live
      cases live
  connected := by
    intro other another stored live
    rw [Registry.senderOf_register]
    split
    · exact ⟨index, rfl⟩
    · rename_i different
      cases Slots.set_cases found stored with
      | inl changed =>
          obtain ⟨_, rfl⟩ := changed
          exact absurd rfl different
      | inr kept => exact routed.connected other another kept.2 live

theorem WellRouted.drain (routed : mail.WellRouted)
    (found : mail.streams[index]? = some stream)
    (registered : stream.phase = .registered) :
    ({ mail with streams := mail.setPhase index stream .reading } :
      Mailroom).WellRouted where
  keyed := routed.keyed
  authentic := fun other another stored =>
    (routed.authentic_setPhase found _ other another stored).1
  groups := fun other another stored =>
    (routed.authentic_setPhase found _ other another stored).2
  consistent := routed.consistent
  sender := by
    intro device channel sender
    obtain ⟨another, stored, live, same, groups⟩ :=
      routed.sender device channel sender
    by_cases here : channel = index
    · rw [here, found] at stored
      cases stored
      refine ⟨{ stream with phase := .reading }, ?_, rfl, same, groups⟩
      exact (Slots.getElem?_set_of_found found _ _).trans (if_pos here)
    · refine ⟨another, ?_, live, same, groups⟩
      exact (Slots.getElem?_set_of_found found _ _).trans
        ((if_neg here).trans stored)
  connected := by
    intro other another stored live
    cases Slots.set_cases found stored with
    | inl changed =>
        obtain ⟨_, rfl⟩ := changed
        refine routed.connected index stream found ?_
        unfold MailStream.live
        rw [registered]
    | inr kept => exact routed.connected other another kept.2 live

theorem WellRouted.close (routed : mail.WellRouted)
    (found : mail.streams[index]? = some stream)
    (alone : ∀ (other : ℕ) (another : MailStream), other ≠ index →
      mail.streams[other]? = some another →
      another.claims.deviceId = stream.claims.deviceId →
      another.live = false) :
    ({ mail with
      registry := mail.registry.unregister stream.claims.deviceId
      streams := mail.setPhase index stream .ended } :
        Mailroom).WellRouted where
  keyed := routed.keyed
  authentic := fun other another stored =>
    (routed.authentic_setPhase found _ other another stored).1
  groups := fun other another stored =>
    (routed.authentic_setPhase found _ other another stored).2
  consistent := routed.consistent.unregister _
  sender := by
    intro device channel sender
    rw [Registry.senderOf_unregister] at sender
    rw [Registry.groupsOf_unregister]
    split at sender
    · cases sender
    · rename_i different
      rw [if_neg different]
      exact routed.sender_setPhase found _ sender
        fun _ same => different same.symm
  connected := by
    intro other another stored live
    cases Slots.set_cases found stored with
    | inl changed =>
        obtain ⟨_, rfl⟩ := changed
        cases live
    | inr kept =>
        have different : another.claims.deviceId ≠
            stream.claims.deviceId := by
          intro same
          rw [alone other another kept.1 kept.2 same] at live
          cases live
        rw [Registry.senderOf_unregister, if_neg different]
        exact routed.connected other another kept.2 live

end StreamSteps

end Mailroom

end Accord

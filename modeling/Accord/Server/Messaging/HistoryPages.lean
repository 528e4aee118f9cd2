import Accord.Library.Paging
import Accord.Server.Messaging.Service

/-! Reading the history of a group page by page, while others write to it. -/

namespace Accord

namespace Store

private theorem upperSeq_ofNat {seq : ℕ} (positive : 1 ≤ seq)
    (below : seq < i64Max) :
    upperSeq (UInt64.ofNat seq).toBitVec.toInt = seq := by
  have signed : (UInt64.ofNat seq).toBitVec.toInt = (seq : Int) := by
    unfold i64Max at below
    rw [UInt64.toBitVec_ofNat', BitVec.toInt_eq_toNat_cond, BitVec.toNat_ofNat]
    omega
  rw [signed, upperSeq, if_neg (by omega)]

private theorem upperSeq_beyond {cursor : UInt64}
    (beyond : i64Max < cursor.toNat) :
    upperSeq cursor.toBitVec.toInt = upperSeq (0 : UInt64).toBitVec.toInt := by
  have negative : cursor.toBitVec.toInt ≤ 0 := by
    unfold i64Max at beyond
    rw [BitVec.toInt_eq_toNat_cond, if_neg]
    · have := cursor.toBitVec.isLt
      omega
    · rw [UInt64.toNat_toBitVec]
      omega
  rw [upperSeq, if_pos negative]
  rfl

variable {store : Store} {groupId : Uuid} {before : Int}

def publicRows (store : Store) (groupId : Uuid) : List PublicMessageRow :=
  store.publicMessages.filter (·.groupId == groupId)

def privateRows (store : Store) (groupId : Uuid) : List PrivateMessageRow :=
  store.privateMessages.filter (·.groupId == groupId)

def SendersRegistered (store : Store) : Prop :=
  ∀ row ∈ store.publicMessages, store.hasUser row.senderId = true

theorem displayName_of_hasUser {userId : Uuid}
    (registered : store.hasUser userId = true) :
    ∃ name, store.displayName userId = some name := by
  rw [hasUser, List.any_eq_true] at registered
  obtain ⟨user, member, same⟩ := registered
  cases found : store.users.find? (·.id == userId) with
  | none =>
      rw [List.find?_eq_none] at found
      exact absurd same (found user member)
  | some user => exact ⟨user.displayName, by rw [displayName, found]; rfl⟩

theorem fetchPublicHistory_rows (registered : store.SendersRegistered)
    (groupId : Uuid) (before : Int) (limit : ℕ) :
    (store.fetchPublicHistory groupId before limit).map (·.row) =
      (Paging.newest (·.seq) (store.publicMessages.filter fun row =>
        row.groupId == groupId && row.seq < upperSeq before)).take limit := by
  have joined : ∀ rows : List PublicMessageRow,
      (∀ row ∈ rows, row ∈ store.publicMessages) →
      (rows.filterMap fun row => (store.displayName row.senderId).map
        (PublicMessage.mk row ·)).map (·.row) = rows := by
    intro rows known
    induction rows with
    | nil => rfl
    | cons row rest induction =>
        obtain ⟨name, named⟩ := displayName_of_hasUser
          (registered row (known row List.mem_cons_self))
        rw [List.filterMap_cons, named, Option.map_some, List.map_cons,
          induction fun other member =>
            known other (List.mem_cons_of_mem _ member)]
  unfold fetchPublicHistory
  rw [List.map_take, joined]
  · rfl
  · intro row member
    have listed := (Paging.newest_perm (fun row : PublicMessageRow => row.seq)
      _).mem_iff.mp member
    exact List.mem_of_mem_filter listed

private theorem filter_bounded {Row : Type} {seq : Row → ℕ} {rows : List Row}
    (kind : Row → Bool) {bound : ℕ} (upper : upperSeq before = bound) :
    (rows.filter fun row => kind row && seq row < upperSeq before) =
      rows.filter fun row => kind row && seq row < bound := by
  simp only [upper, Int.ofNat_lt]

theorem filter_unbounded {Row : Type} {seq : Row → ℕ} {rows : List Row}
    (kind : Row → Bool) (below : ∀ row ∈ rows, seq row < i64Max) :
    (rows.filter fun row =>
      kind row && seq row < upperSeq (0 : UInt64).toBitVec.toInt) =
        rows.filter kind := by
  apply List.filter_congr
  intro row member
  have fits : (seq row : Int) < upperSeq (0 : UInt64).toBitVec.toInt := by
    change (seq row : Int) < (i64Max : Int)
    exact_mod_cast below row member
  rw [decide_eq_true fits, Bool.and_true]

end Store

namespace MessagingSvc

section Fetch

variable {store : Store} {claims : Claims} {groupId : Uuid}
  {cursor : UInt64} {limit : UInt32}

def pageRequest (groupId : Uuid) (cursor : UInt64) (limit : UInt32) :
    FetchHistoryRequest :=
  ⟨some (.uuid groupId), cursor, limit⟩

private theorem clampLimit_pos (limit : UInt32) : 0 < clampLimit limit := by
  unfold clampLimit
  split
  · decide
  · rename_i asked
    have positive : 0 < limit.toNat := by
      rw [Nat.pos_iff_ne_zero]
      exact fun zero => asked (UInt32.toNat_inj.mp zero)
    exact Nat.lt_min.mpr ⟨positive, by decide⟩

private theorem fetchPublicHistory_of_participates
    (takesPart : participates store groupId claims.sub = true) :
    (fetchPublicHistory (some claims) (pageRequest groupId cursor limit)
        store).1 =
      .ok ((store.fetchPublicHistory groupId cursor.toBitVec.toInt
        (clampLimit limit)).map (·.busMessage)) := by
  have named : orStatus (requireGroupId (some (.uuid groupId))) store =
      (.ok groupId, store) := rfl
  have passed := orStatus_of_ok (requireParticipant_of_participates takesPart)
  rw [fetchPublicHistory, authenticate_bind]
  simp only [pageRequest]
  rw [Effect.bind_of_ok named, Effect.bind_of_ok passed]
  -- Joining on the way changes neither the messages nor the accounts.
  cases store.isMember groupId claims.sub <;> rfl

private theorem fetchPrivateHistory_of_member
    (member : store.isMember groupId claims.sub = true) :
    (fetchPrivateHistory (some claims) (pageRequest groupId cursor limit)
        store).1 =
      .ok ((store.fetchPrivateHistory groupId cursor.toBitVec.toInt
        (clampLimit limit)).map (·.busMessage)) := by
  have named : orStatus (requireGroupId (some (.uuid groupId))) store =
      (.ok groupId, store) := rfl
  rw [fetchPrivateHistory, authenticate_bind]
  simp only [pageRequest]
  rw [Effect.bind_of_ok named, Effect.check_bind, member, if_pos rfl]
  rfl

end Fetch

/-- A client that reads a history to its end: from no bound on, and then from
the number of the last message it received. -/
def publicPages (claims : Claims) (groupId : Uuid) (limit : UInt32)
    (stores : ℕ → Store) (fuel : ℕ) :
    Except Status (List (List PublicBusMessage)) :=
  Paging.walk
    (fun turn cursor => (fetchPublicHistory (some claims)
      (pageRequest groupId cursor limit) (stores turn)).1)
    (·.sequenceNumber) fuel 0 0

def privatePages (claims : Claims) (groupId : Uuid) (limit : UInt32)
    (stores : ℕ → Store) (fuel : ℕ) :
    Except Status (List (List PrivateBusMessage)) :=
  Paging.walk
    (fun turn cursor => (fetchPrivateHistory (some claims)
      (pageRequest groupId cursor limit) (stores turn)).1)
    (·.sequenceNumber) fuel 0 0

def nameless (message : PublicBusMessage) : PublicBusMessage :=
  { message with senderDisplayName := "" }

/-- The pages show what was stored, newest first and each message once, and
then comes an empty page. -/
def Complete {Message : Type} (number : Message → UInt64)
    (view : Message → Message) (stored : List Message)
    (answer : Except Status (List (List Message))) : Prop :=
  ∃ pages, answer = .ok (pages ++ [[]]) ∧
    (pages.flatten.Pairwise fun first second =>
      number second < number first) ∧
    (pages.flatten.map view).Perm stored

section Complete

variable {Message Row : Type} {rows : List Row} {number : Message → UInt64}
  {view : Message → Message} {limit : ℕ}
  {fetch : ℕ → UInt64 → Except Status (List Message)}

private theorem ofNat_lt_ofNat {first second : ℕ} (ordered : first < second)
    (bounded : second < Store.i64Max) :
    UInt64.ofNat first < UInt64.ofNat second := by
  unfold Store.i64Max at bounded
  rw [UInt64.lt_iff_toNat_lt, UInt64.toNat_ofNat', UInt64.toNat_ofNat']
  omega

private theorem complete_of_serves (seq : Row → ℕ) (shown : Row → Message)
    (distinct : (rows.map seq).Nodup)
    (bounded : ∀ row ∈ rows, seq row < Store.i64Max) (positive : 0 < limit)
    (numbered : ∀ row, number (shown row) = UInt64.ofNat (seq row))
    (viewed : ∀ message, number (view message) = number message)
    (first : Paging.Serves fetch view limit 0 0
      ((Paging.newest seq rows).map shown))
    (later : ∀ turn done row rest,
      Paging.newest seq rows = done ++ row :: rest →
      Paging.Serves fetch view limit turn (UInt64.ofNat (seq row))
        (rest.map shown))
    {fuel : ℕ} (enough : rows.length < fuel) :
    Complete number view (rows.map shown)
      (Paging.walk fetch number fuel 0 0) := by
  have perm := Paging.newest_perm seq rows
  have continues : ∀ turn done item rest,
      (Paging.newest seq rows).map shown = done ++ view item :: rest →
      Paging.Serves fetch view limit turn (number item) rest := by
    intro turn done item rest split
    obtain ⟨before, after, parted, -, tail⟩ := List.map_eq_append_iff.mp split
    obtain ⟨row, left, rfl, same, rfl⟩ := List.map_eq_cons_iff.mp tail
    rw [← viewed item, ← same, numbered]
    exact later turn before row left parted
  obtain ⟨pages, walked, shows⟩ := Paging.walk_complete positive
    continues (List.nil_append _).symm first
    (by rw [List.length_map, perm.length_eq]; exact enough)
  refine ⟨pages, walked, ?_, ?_⟩
  · have ordered : (pages.flatten.map view).Pairwise fun first second =>
        number second < number first := by
      rw [shows, List.pairwise_map]
      apply (Paging.newest_descending distinct).imp_of_mem
      intro first second member _ before
      rw [numbered, numbered]
      exact ofNat_lt_ofNat before (bounded first (perm.mem_iff.mp member))
    rw [List.pairwise_map] at ordered
    exact ordered.imp fun before => by rwa [viewed, viewed] at before
  · rw [shows]
    exact perm.map shown

private theorem mem_of_newest {Row : Type} {seq : Row → ℕ} {kind : Row → Bool}
    {rows done rest : List Row} {row : Row}
    (split : Paging.newest seq (rows.filter kind) = done ++ row :: rest) :
    row ∈ rows := by
  have listed : row ∈ Paging.newest seq (rows.filter kind) := by
    rw [split]
    simp
  exact List.mem_of_mem_filter ((Paging.newest_perm _ _).mem_iff.mp listed)

/-- A history is read whole from a table that only grows, if every page shows
what the table has below its cursor. -/
private theorem complete_of_table {seq : Row → ℕ} {tables : ℕ → List Row}
    (kind : Row → Bool) (shown : Row → Message)
    (growing : Paging.Growing seq tables)
    (numbered : ∀ row ∈ tables 0, 1 ≤ seq row ∧ seq row < Store.i64Max)
    (positive : 0 < limit)
    (same : ∀ row, number (shown row) = UInt64.ofNat (seq row))
    (viewed : ∀ message, number (view message) = number message)
    (serves : ∀ turn cursor rest,
      Paging.newest seq ((tables turn).filter fun row =>
        kind row && seq row < Store.upperSeq cursor.toBitVec.toInt) = rest →
      Paging.Serves fetch view limit turn cursor (rest.map shown))
    {fuel : ℕ} (enough : ((tables 0).filter kind).length < fuel) :
    Complete number view (((tables 0).filter kind).map shown)
      (Paging.walk fetch number fuel 0 0) := by
  apply complete_of_serves seq shown
    (growing.distinct.sublist (List.filter_sublist.map _)) ?_ positive same
    viewed ?_ ?_ enough
  · intro row member
    exact (numbered row (List.mem_of_mem_filter member)).2
  · apply serves
    rw [Store.filter_unbounded kind fun row member => (numbered row member).2]
  · intro turn done row rest split
    apply serves
    obtain ⟨least, below⟩ := numbered row (mem_of_newest split)
    rw [Store.filter_bounded kind (Store.upperSeq_ofNat least below)]
    exact growing.newest_below kind split turn

end Complete

/-- The public messages, while their pages are read: more may be sent. -/
structure PublicReading (claims : Claims) (groupId : Uuid)
    (stores : ℕ → Store) : Prop where
  growing : Paging.Growing (·.seq) fun turn => (stores turn).publicMessages
  numbered : ∀ row ∈ (stores 0).publicMessages,
    1 ≤ row.seq ∧ row.seq < Store.i64Max
  registered : ∀ turn, (stores turn).SendersRegistered
  takesPart : ∀ turn, participates (stores turn) groupId claims.sub = true

structure PrivateReading (claims : Claims) (groupId : Uuid)
    (stores : ℕ → Store) : Prop where
  growing : Paging.Growing (·.seq) fun turn => (stores turn).privateMessages
  numbered : ∀ row ∈ (stores 0).privateMessages,
    1 ≤ row.seq ∧ row.seq < Store.i64Max
  member : ∀ turn, (stores turn).isMember groupId claims.sub = true

section Reading

variable {claims : Claims} {groupId : Uuid} {stores : ℕ → Store}
  (limit : UInt32)

private theorem serves_public (reading : PublicReading claims groupId stores)
    {turn : ℕ} {cursor : UInt64} {rest : List PublicMessageRow}
    (left : Paging.newest (·.seq) ((stores turn).publicMessages.filter
      fun row => row.groupId == groupId &&
        row.seq < Store.upperSeq cursor.toBitVec.toInt) = rest) :
    Paging.Serves (fun turn cursor => (fetchPublicHistory (some claims)
        (pageRequest groupId cursor limit) (stores turn)).1)
      nameless (clampLimit limit) turn cursor
      (rest.map fun row => (Store.PublicMessage.mk row "").busMessage) := by
  have rows := Store.fetchPublicHistory_rows (reading.registered turn)
    groupId cursor.toBitVec.toInt (clampLimit limit)
  rw [left] at rows
  refine ⟨_, fetchPublicHistory_of_participates (reading.takesPart turn), ?_⟩
  rw [← List.map_take, ← rows, List.map_map, List.map_map]
  rfl

private theorem serves_private (reading : PrivateReading claims groupId stores)
    {turn : ℕ} {cursor : UInt64} {rest : List PrivateMessageRow}
    (left : Paging.newest (·.seq) ((stores turn).privateMessages.filter
      fun row => row.groupId == groupId &&
        row.seq < Store.upperSeq cursor.toBitVec.toInt) = rest) :
    Paging.Serves (fun turn cursor => (fetchPrivateHistory (some claims)
        (pageRequest groupId cursor limit) (stores turn)).1)
      id (clampLimit limit) turn cursor
      (rest.map fun row => row.busMessage) := by
  refine ⟨_, fetchPrivateHistory_of_member (reading.member turn), ?_⟩
  rw [List.map_id, ← List.map_take, ← left]
  rfl

private theorem publicPages_complete
    (reading : PublicReading claims groupId stores)
    {fuel : ℕ} (enough : ((stores 0).publicRows groupId).length < fuel) :
    Complete (·.sequenceNumber) nameless
      (((stores 0).publicRows groupId).map
        fun row => (Store.PublicMessage.mk row "").busMessage)
      (publicPages claims groupId limit stores fuel) := by
  unfold publicPages
  apply complete_of_table (·.groupId == groupId) _ reading.growing
    reading.numbered (clampLimit_pos limit) ?_ ?_ ?_ enough
  · exact fun _ => rfl
  · exact fun _ => rfl
  · exact fun _ _ _ => serves_public limit reading

private theorem privatePages_complete
    (reading : PrivateReading claims groupId stores) {fuel : ℕ}
    (enough : ((stores 0).privateRows groupId).length < fuel) :
    Complete (·.sequenceNumber) id
      (((stores 0).privateRows groupId).map fun row => row.busMessage)
      (privatePages claims groupId limit stores fuel) := by
  unfold privatePages
  apply complete_of_table (·.groupId == groupId) _ reading.growing
    reading.numbered (clampLimit_pos limit) ?_ ?_ ?_ enough
  · exact fun _ => rfl
  · exact fun _ => rfl
  · exact fun _ _ _ => serves_private limit reading

end Reading

private theorem fetchHistory_beyond (token : Option Claims)
    (req : FetchHistoryRequest)
    (beyond : Store.i64Max < req.beforeSequence.toNat) :
    fetchPublicHistory token req =
        fetchPublicHistory token { req with beforeSequence := 0 } ∧
      fetchPrivateHistory token req =
        fetchPrivateHistory token { req with beforeSequence := 0 } := by
  have bound := Store.upperSeq_beyond beyond
  simp only [fetchPublicHistory, fetchPrivateHistory,
    Store.fetchPublicHistory, Store.fetchPrivateHistory, bound, and_self]

/-- Whoever reads a history to its end has read it whole, whatever is sent
meanwhile and however long the pages are. -/
theorem history_complete :
    (∀ claims groupId stores limit fuel,
      PublicReading claims groupId stores →
      ((stores 0).publicRows groupId).length < fuel →
      Complete (·.sequenceNumber) nameless
        (((stores 0).publicRows groupId).map
          fun row => (Store.PublicMessage.mk row "").busMessage)
        (publicPages claims groupId limit stores fuel)) ∧
    (∀ claims groupId stores limit fuel,
      PrivateReading claims groupId stores →
      ((stores 0).privateRows groupId).length < fuel →
      Complete (·.sequenceNumber) id
        (((stores 0).privateRows groupId).map fun row => row.busMessage)
        (privatePages claims groupId limit stores fuel)) ∧
    (∀ token req, Store.i64Max < req.beforeSequence.toNat →
      fetchPublicHistory token req =
          fetchPublicHistory token { req with beforeSequence := 0 } ∧
        fetchPrivateHistory token req =
          fetchPrivateHistory token { req with beforeSequence := 0 }) :=
  ⟨fun _ _ _ limit _ reading enough =>
      publicPages_complete limit reading enough,
    fun _ _ _ limit _ reading enough =>
      privatePages_complete limit reading enough,
    fetchHistory_beyond⟩

def numberedMessage (seq : ℕ) : PublicMessageRow :=
  ⟨.ofNat _ (100 + seq), 50, 1, "hi", .ofNat _ (200 + seq), seq, 0⟩

/-- A channel with three messages; one more comes with every page. -/
def busyChannel (turn : ℕ) : Store where
  users := [⟨1, "ada", "Ada", "", true, false, none, ""⟩]
  groups := [⟨50, "general", "", .pub, .text, "", 0⟩]
  groupMembers := [⟨50, 1, "member"⟩]
  publicMessages := (List.range (turn + 3)).map fun index =>
    numberedMessage (index + 1)

private theorem busyChannel_reading : PublicReading ⟨1, 10⟩ 50 busyChannel where
  growing := {
    distinct := by decide
    grows := by
      intro turn
      refine ⟨[numberedMessage (turn + 4)], ?_, ?_⟩
      · simp [busyChannel, List.range_succ]
      · intro row new old listed
        simp only [busyChannel, List.mem_map, List.mem_range] at listed
        obtain ⟨index, below, rfl⟩ := listed
        rw [List.mem_singleton.mp new]
        simp only [numberedMessage]
        omega }
  numbered := by decide
  registered := by
    intro turn row member
    simp only [busyChannel, List.mem_map] at member
    obtain ⟨index, -, rfl⟩ := member
    rfl
  takesPart := fun _ => rfl

theorem busyChannel_complete :
    Complete (·.sequenceNumber) nameless
      (((busyChannel 0).publicRows 50).map
        fun row => (Store.PublicMessage.mk row "").busMessage)
      (publicPages ⟨1, 10⟩ 50 2 busyChannel 4) :=
  history_complete.1 ⟨1, 10⟩ 50 busyChannel 2 4 busyChannel_reading
    (by decide)

end MessagingSvc

end Accord

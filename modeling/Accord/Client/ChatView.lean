import Accord.Library.EventRun
import Accord.Library.Slots
import Accord.Server.Messaging.HistoryPages
import Accord.Server.Messaging.Idempotency

/-! The messages of the open channel in the window.  Requests fetch what was
written before, the stream brings what is written now, and the two race. -/

namespace Accord

open Store (PublicMessage)

/-- A `loadHistory` under way, and what the server has read for it, oldest
first.  `outdated` records that the stream has dealt with a message meanwhile
that the answer lacks; the window keeps no such record. -/
structure HistoryLoad where
  groupId : Uuid
  answer : Option (List PublicMessage) := none
  outdated : Bool := false

namespace HistoryLoad

def lacks (load : HistoryLoad) (row : PublicMessageRow) : Bool :=
  load.groupId == row.groupId &&
    load.answer.any fun shown => !shown.any (·.row == row)

def miss (rows : List PublicMessageRow) (load : HistoryLoad) : HistoryLoad :=
  { load with outdated := load.outdated || rows.any load.lacks }

end HistoryLoad

/-- A server, the stream of a device, and the window.  `unpublished` are
messages that are stored and not yet handed out, and `pending` those on their
way through the stream; `statuses` are connection states on their way to the
window.  `cut` is a stream that is gone while the client has not noticed, and
`subscribed` the groups whose messages the hub has for the device.  `loaded`
and `behind` record whether the history of the open channel has come, and
whether it lacks a message that went by. -/
structure ChatView where
  store : Store
  subscribed : List Uuid := []
  unpublished : List PublicMessage := []
  pending : List PublicMessage := []
  streaming : Bool := true
  cut : Bool := false
  statuses : List Bool := []
  active : Bool := true
  wasConnected : Bool := true
  selecting : Bool := false
  activeId : Option Uuid := none
  messages : List PublicMessage := []
  loads : List HistoryLoad := []
  loaded : Bool := false
  behind : Bool := false

/-- `elsewhere` is what other calls make of the store, `subscribe` a group that
is joined, or an older stream of the device that ends; `fail` is a fetch that is
refused, and `stray` the history of a channel of another server. -/
inductive ChatEvent where
  | post (draw : RowDraw) (groupId senderId : Uuid) (content : String)
      (clientMessageId : Uuid)
  | publish (place : ℕ) (room : Bool)
  | elsewhere (after : Store)
  | subscribe (groups : List Uuid)
  | cut
  | streamDown (arrived : ℕ)
  | streamUp (groups : List Uuid)
  | deliver
  | status
  | selectServer
  | leaveServer
  | openChannel (groupId : Option Uuid)
  | read (place : ℕ)
  | answer (place : ℕ)
  | fail (place : ℕ)
  | stray (shown : List PublicMessage)

namespace ChatView

def historyLimit : ℕ := 50

def live (view : ChatView) : Bool :=
  view.streaming && !view.cut

def post (view : ChatView) (draw : RowDraw) (groupId senderId : Uuid)
    (content : String) (clientMessageId : Uuid) : ChatView :=
  match Store.insertPublicMessage draw groupId senderId content
      clientMessageId view.store with
  | (.ok message, store) =>
      { view with
        store := store
        unpublished := view.unpublished ++ [message] }
  | (.error _, store) => { view with store := store }

def miss (view : ChatView) (rows : List PublicMessageRow) : ChatView :=
  { view with loads := view.loads.map (·.miss rows) }

def goBy (view : ChatView) (gone : List PublicMessage) : ChatView :=
  { view.miss (gone.map (·.row)) with
    behind := view.behind ||
      gone.any fun message => view.activeId == some message.row.groupId }

/-- `room` is that the buffer of the stream takes the message: one that finds
it full is dropped. -/
def publish (view : ChatView) (place : ℕ) (room : Bool) : ChatView :=
  match view.unpublished[place]? with
  | some message =>
      let handed : ChatView :=
        { view with unpublished := view.unpublished.eraseIdx place }
      if view.live && room &&
          view.subscribed.contains message.row.groupId then
        { handed with pending := view.pending ++ [message] }
      else
        handed.goBy [message]
  | none => view

/-- The client finds the stream gone, or cannot open it.  What had `arrived`
is still shown. -/
def streamDown (view : ChatView) (arrived : ℕ) : ChatView :=
  { view.goBy (view.pending.drop arrived) with
    subscribed := []
    pending := view.pending.take arrived
    streaming := false
    statuses := view.statuses ++ [false] }

def streamUp (view : ChatView) (groups : List Uuid) : ChatView :=
  { view with
    subscribed := groups
    streaming := true
    cut := false
    statuses := view.statuses ++ [true] }

def appendIfActive (view : ChatView) (message : PublicMessage) : ChatView :=
  if view.activeId == some message.row.groupId then
    { view with
      messages :=
        if view.messages.any (·.row.id == message.row.id) then view.messages
        else view.messages ++ [message] }
  else
    view

/-- Messages of a server that is not looked at only count as unread. -/
def deliver (view : ChatView) : ChatView :=
  match view.pending with
  | message :: rest =>
      let taken : ChatView :=
        { view.miss [message.row] with pending := rest }
      if view.active then taken.appendIfActive message else taken
  | [] => view

def loadHistory (view : ChatView) : ChatView :=
  match view.activeId with
  | some groupId =>
      { view with loads := view.loads ++ [⟨groupId, none, false⟩] }
  | none => view

def status (view : ChatView) : ChatView :=
  match view.statuses with
  | [] => view
  | connected :: rest =>
      let told : ChatView := { view with statuses := rest }
      if view.active then
        let loading :=
          if connected && !view.wasConnected then told.loadHistory else told
        { loading with wasConnected := connected }
      else
        told

/-- The window turns to the server; a channel is opened once its channels are
listed. -/
def selectServer (view : ChatView) : ChatView :=
  { view with
    active := true
    wasConnected := true
    selecting := true
    messages := []
    loaded := false }

/-- Only a change of the open channel loads anything. -/
def openChannel (view : ChatView) (groupId : Option Uuid) : ChatView :=
  let opened : ChatView := { view with selecting := false }
  if view.activeId = groupId then
    opened
  else
    let changed : ChatView :=
      { opened with activeId := groupId, loaded := false }
    if view.active then changed.loadHistory else changed

def read (view : ChatView) (place : ℕ) : ChatView :=
  match view.loads[place]? with
  | some ⟨groupId, none, outdated⟩ =>
      { view with
        loads := view.loads.set place ⟨groupId,
          some (view.store.fetchPublicHistory groupId 0 historyLimit).reverse,
          outdated⟩ }
  | _ => view

def fail (view : ChatView) (place : ℕ) : ChatView :=
  { view with loads := view.loads.eraseIdx place }

/-- The window takes what comes, whatever it shows by then. -/
def answer (view : ChatView) (place : ℕ) : ChatView :=
  match view.loads[place]? with
  | some ⟨_, some shown, outdated⟩ =>
      { view.fail place with
        messages := shown
        loaded := true
        behind := outdated }
  | _ => view

def step (view : ChatView) : ChatEvent → ChatView
  | .post draw groupId senderId content clientMessageId =>
      view.post draw groupId senderId content clientMessageId
  | .publish place room => view.publish place room
  | .elsewhere after => { view with store := after }
  | .subscribe groups => { view with subscribed := groups }
  | .cut => { view with cut := true }
  | .streamDown arrived => view.streamDown arrived
  | .streamUp groups => view.streamUp groups
  | .deliver => view.deliver
  | .status => view.status
  | .selectServer => view.selectServer
  | .leaveServer => { view with active := false }
  | .openChannel groupId => view.openChannel groupId
  | .read place => view.read place
  | .answer place => view.answer place
  | .fail place => view.fail place
  | .stray shown => { view with messages := shown }

/-- The last connection state that the window will have been told. -/
def lastStatus : Bool → List Bool → Bool
  | was, [] => was
  | _, connected :: rest => lastStatus connected rest

/-- Being told these states, the window loads the history again. -/
def reloads : Bool → List Bool → Bool
  | _, [] => false
  | was, connected :: rest => (connected && !was) || reloads connected rest

/-- The history of the channel is under way, or will be asked for. -/
def Reloading (view : ChatView) (groupId : Uuid) : Prop :=
  (∃ load ∈ view.loads, load.groupId = groupId) ∨
    reloads view.wasConnected view.statuses = true

/-- The hub has the open channel for the device. -/
def Listens (view : ChatView) (groups : List Uuid) : Prop :=
  view.active = true → view.selecting = false →
    ∀ groupId ∈ view.activeId, groupId ∈ groups

/-- What a working stream needs so that the window can rely on it.  The open
channel is one that the device gets; its history is not replaced by the one of
a channel that was left; and where the window drops or loses messages, another
answer is still to come.  Nothing is sent twice, and no server is returned to
with the channel open that it opens. -/
def Careful (view : ChatView) : ChatEvent → Prop
  | .post draw groupId senderId _ clientMessageId =>
      view.store.findPublicMessage groupId clientMessageId = none ∧
        (∀ row ∈ view.store.publicMessages, row.id ≠ draw.id) ∧
        draw.seq < Store.i64Max ∧ view.store.hasUser senderId = true
  | .publish place room => view.live = true →
      ∀ message ∈ view.unpublished[place]?,
        view.activeId = some message.row.groupId → room = true
  | .elsewhere after =>
      after.publicMessages = view.store.publicMessages ∧
        after.SendersRegistered
  | .subscribe groups => view.live = true → view.Listens groups
  | .streamUp groups => view.streaming = false ∧ view.Listens groups
  | .selectServer => view.statuses = [] → view.streaming = true
  | .openChannel groupId =>
      (view.selecting = true → view.activeId ≠ groupId) ∧
        (view.live = true → ∀ channel ∈ groupId, channel ∈ view.subscribed)
  | .answer place => view.active = true → ∀ load ∈ view.loads[place]?,
      view.activeId = some load.groupId ∧
        (view.live = true → load.outdated = true →
          (view.fail place).Reloading load.groupId)
  | .fail place => view.active = true → view.live = true →
      ∀ load ∈ view.loads[place]?, view.activeId = some load.groupId →
        view.loaded = true ∧ view.behind = false ∨
          (view.fail place).Reloading load.groupId
  | .stray _ => view.active = false
  | _ => True

instance (view : ChatView) (groupId : Uuid) :
    Decidable (view.Reloading groupId) :=
  inferInstanceAs (Decidable (_ ∨ _))

-- Looks at the open channel only, and not at every id there could be.
instance (channel : Option Uuid) (groups : List Uuid) :
    Decidable (∀ groupId ∈ channel, groupId ∈ groups) :=
  decidable_of_iff (channel.all groups.contains = true)
    (by cases channel <;> simp)

instance (view : ChatView) (groups : List Uuid) :
    Decidable (view.Listens groups) :=
  inferInstanceAs (Decidable (_ = true → _ = false →
    ∀ groupId ∈ view.activeId, groupId ∈ groups))

instance (view : ChatView) (event : ChatEvent) :
    Decidable (view.Careful event) :=
  match event with
  | .post _ _ _ _ _ => inferInstanceAs (Decidable
      (_ = none ∧ (∀ row ∈ view.store.publicMessages, _) ∧ _ < _ ∧ _ = true))
  | .publish place _ => inferInstanceAs (Decidable
      (_ = true → ∀ message ∈ view.unpublished[place]?,
        view.activeId = some message.row.groupId → _ = true))
  | .elsewhere after => inferInstanceAs (Decidable
      (_ = _ ∧ ∀ row ∈ after.publicMessages, _ = true))
  | .subscribe groups => inferInstanceAs (Decidable
      (_ = true → view.Listens groups))
  | .streamUp groups => inferInstanceAs (Decidable
      (_ = false ∧ view.Listens groups))
  | .selectServer => inferInstanceAs (Decidable (_ = [] → _ = true))
  | .openChannel groupId => inferInstanceAs (Decidable
      ((_ = true → _ ≠ _) ∧ (_ = true → ∀ channel ∈ groupId, channel ∈ _)))
  | .answer place => inferInstanceAs (Decidable
      (_ = true → ∀ load ∈ view.loads[place]?, _ = _ ∧
        (_ = true → _ = true → (view.fail place).Reloading load.groupId)))
  | .fail place => inferInstanceAs (Decidable
      (_ = true → _ = true → ∀ load ∈ view.loads[place]?, _ = _ →
        _ = true ∧ _ = false ∨ (view.fail place).Reloading load.groupId))
  | .stray _ => inferInstanceAs (Decidable (_ = false))
  | .cut | .streamDown _ | .deliver | .status | .leaveServer | .read _ =>
      .isTrue trivial

/-- The newest messages of a channel, as many as a window loads. -/
def recent (store : Store) (groupId : Uuid) : List PublicMessageRow :=
  (store.publicRows groupId).drop
    ((store.publicRows groupId).length - historyLimit)

/-- Messages of the channel, each once. -/
structure Holds (store : Store) (groupId : Uuid)
    (shown : List PublicMessage) : Prop where
  own : ∀ message ∈ shown, message.row ∈ store.publicRows groupId
  once : (shown.map (·.row)).Nodup

/-- The newest messages are shown or on their way. -/
def Covers (store : Store) (way : List PublicMessage) (groupId : Uuid)
    (shown : List PublicMessage) : Prop :=
  ∀ row ∈ recent store groupId,
    row ∈ shown.map (·.row) ∨ row ∈ way.map (·.row)

/-- The window looks at the server, and nothing is under way. -/
structure Quiet (view : ChatView) : Prop where
  active : view.active = true
  chosen : view.selecting = false
  live : view.live = true
  statuses : view.statuses = []
  unpublished : view.unpublished = []
  pending : view.pending = []
  loads : view.loads = []

/-- The window shows messages of the open channel only, each once, and the
newest ones are among them. -/
def Shows (view : ChatView) : Prop :=
  ∀ groupId ∈ view.activeId, Holds view.store groupId view.messages ∧
    ∀ row ∈ recent view.store groupId, row ∈ view.messages.map (·.row)

end ChatView

end Accord

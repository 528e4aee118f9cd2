import Accord.Library.EventRun
import Accord.Server.Groups.Channels
import Accord.Server.Groups.Joins

/-! Categories.  A channel names its category by a text that nothing ties to
the table of categories. -/

namespace Accord

structure CategoryRow where
  id : Uuid
  name : String
  position : Int
  deriving DecidableEq

structure Layout where
  server : Server
  categories : List CategoryRow := []

inductive LayoutCall where
  | createPublicGroup (decision : GuardrailDecision) (fresh : Uuid)
      (token : Option Claims) (req : GroupSvc.CreatePublicGroupRequest)
  | reorderChannels (token : Option Claims) (categoryId : String)
      (groupIds : List IdText)
  | createCategory (decision : GuardrailDecision) (fresh : Uuid)
      (token : Option Claims) (name : String)
  | reorderCategories (token : Option Claims) (categoryIds : List IdText)
  | deleteCategory (decision : GuardrailDecision) (token : Option Claims)
      (id : IdText)

namespace Layout

variable {Value : Type}

def onServer (inner : Effect Server Status Value) :
    Effect Layout Status Value :=
  Effect.zoom (·.server) (fun server layout => { layout with server }) inner

def onStore (inner : Effect Store Status Value) :
    Effect Layout Status Value :=
  onServer (Server.onStore inner)

def lastPosition (layout : Layout) : Int :=
  (layout.categories.map (·.position)).max?.getD (-1)

/-- `Store::create_category` -/
def insertCategory (fresh : Uuid) (name : String) :
    Effect Layout ServerError Uuid := do
  Effect.check
    (fun layout => !layout.categories.any (·.id == fresh)) Store.duplicate
  Effect.update fun layout =>
    { layout with
      categories :=
        layout.categories ++ [⟨fresh, name, layout.lastPosition + 1⟩] }
  pure fresh

def createCategory (decision : GuardrailDecision) (fresh : Uuid)
    (token : Option Claims) (name : String) :
    Effect Layout Status CategoryRow := do
  let claims ← authenticate token
  onStore (Authz.require claims.sub Permissions.manageChannels)
  Effect.check (fun _ => trim name ≠ "")
    (ServerError.invalidArgument "category name is required" : Status)
  onStore (GroupSvc.guard decision claims.sub .createChannel (trim name))
  let id ← orStatus (insertCategory fresh (trim name))
  Effect.require (fun layout => layout.categories.find? (·.id == id))
    (ServerError.notFound "category")

def deleteCategory (decision : GuardrailDecision) (token : Option Claims)
    (id : IdText) : Effect Layout Status Unit := do
  onStore (GroupSvc.deleteCategory decision token id)
  let id ← Effect.ofOption id.parse GroupSvc.invalidId
  Effect.update fun layout =>
    { layout with categories := layout.categories.filter (·.id != id) }

def placeCategory (categories : List CategoryRow) (entry : Uuid × ℕ) :
    List CategoryRow :=
  categories.map fun row =>
    if row.id == entry.1 then { row with position := entry.2 } else row

def reorderCategories (token : Option Claims) (categoryIds : List IdText) :
    Effect Layout Status Unit := do
  let claims ← authenticate token
  onStore (Authz.require claims.sub Permissions.manageChannels)
  let ids ← Effect.ofOption (IdText.parseAll categoryIds) GroupSvc.invalidId
  Effect.update fun layout =>
    { layout with
      categories := ids.zipIdx.foldl placeCategory layout.categories }

def step (layout : Layout) : LayoutCall → Layout
  | .createPublicGroup decision fresh token req =>
      (onServer (GroupSvc.createPublicGroup decision fresh token req) layout).2
  | .reorderChannels token categoryId groupIds =>
      (onStore (GroupSvc.reorderChannels token categoryId groupIds) layout).2
  | .createCategory decision fresh token name =>
      (createCategory decision fresh token name layout).2
  | .reorderCategories token categoryIds =>
      (reorderCategories token categoryIds layout).2
  | .deleteCategory decision token id =>
      (deleteCategory decision token id layout).2

abbrev groups (layout : Layout) : List GroupRow := layout.server.store.groups

def Known (categories : List CategoryRow) (categoryId : String) : Prop :=
  categoryId = "" ∨ ∃ row ∈ categories, row.id.text = categoryId

/-- Every channel is uncategorized or in a category that exists. -/
def Referenced (layout : Layout) : Prop :=
  ∀ group ∈ layout.groups, group.kind = .pub →
    Known layout.categories group.categoryId

instance (categories : List CategoryRow) (categoryId : String) :
    Decidable (Known categories categoryId) :=
  inferInstanceAs (Decidable (_ ∨ _))

instance (layout : Layout) : Decidable layout.Referenced :=
  inferInstanceAs (Decidable (∀ group ∈ layout.groups, _))

def privateGroups (layout : Layout) : List GroupRow :=
  layout.groups.filter (·.kind = .priv)

/-- `ReorderChannels` is about channels only. -/
def SparesPrivate (layout : Layout) : LayoutCall → Prop
  | .reorderChannels token categoryId groupIds =>
      (layout.step (.reorderChannels token categoryId groupIds)).privateGroups =
        layout.privateGroups
  | _ => True

instance (layout : Layout) (call : LayoutCall) :
    Decidable (SparesPrivate layout call) :=
  match call with
  | .reorderChannels _ _ _ => inferInstanceAs (Decidable (_ = _))
  | .createPublicGroup _ _ _ _ => inferInstanceAs (Decidable True)
  | .createCategory _ _ _ _ => inferInstanceAs (Decidable True)
  | .reorderCategories _ _ => inferInstanceAs (Decidable True)
  | .deleteCategory _ _ _ => inferInstanceAs (Decidable True)

end Layout

/-! When a call comes to write, and what it would write. -/

namespace LayoutCall

def mayManage (store : Store) (token : Option Claims) : Bool :=
  token.any fun claims =>
    (Authz.effective store claims.sub).allows Permissions.manageChannels

def createsGroup (decision : GuardrailDecision) (fresh : Uuid)
    (token : Option Claims) (req : GroupSvc.CreatePublicGroupRequest)
    (store : Store) : Bool :=
  mayManage store token && trim req.name != "" && decision.allowed &&
    !store.hasGroup fresh

def lastPlace (groupId : Uuid) (ordered : List Uuid) : Option ℕ :=
  (ordered.zipIdx.reverse.find? (·.1 == groupId)).map (·.2)

/-- A channel is listed under a category that exists.  A private group that is
listed at all has that category and its place in the list already. -/
def FitsGroup (categories : List CategoryRow) (categoryId : String)
    (ordered : List Uuid) (group : GroupRow) : Prop :=
  ∀ place ∈ lastPlace group.id ordered,
    match group.kind with
    | .pub => Layout.Known categories categoryId
    | .priv => group.categoryId = categoryId ∧ group.position = place

instance (categories : List CategoryRow) (categoryId : String)
    (ordered : List Uuid) (group : GroupRow) :
    Decidable (FitsGroup categories categoryId ordered group) := by
  unfold FitsGroup
  have each (place : ℕ) : Decidable (match group.kind with
      | .pub => Layout.Known categories categoryId
      | .priv => group.categoryId = categoryId ∧ group.position = place) :=
    match group.kind with
    | .pub => inferInstanceAs (Decidable (Layout.Known _ _))
    | .priv => inferInstanceAs (Decidable (_ ∧ _))
  infer_instance

/-- The condition on a call that the references depend on. -/
def Sound (layout : Layout) : LayoutCall → Prop
  | .createPublicGroup decision fresh token req =>
      createsGroup decision fresh token req layout.server.store = true →
        Layout.Known layout.categories (trim req.categoryId)
  | .reorderChannels token categoryId groupIds =>
      mayManage layout.server.store token = true →
        ∀ ordered ∈ IdText.parseAll groupIds, ∀ group ∈ layout.groups,
          FitsGroup layout.categories (trim categoryId) ordered group
  | _ => True

instance (layout : Layout) (call : LayoutCall) :
    Decidable (Sound layout call) :=
  match call with
  | .createPublicGroup _ _ _ _ => inferInstanceAs (Decidable (_ → _))
  | .reorderChannels _ _ groupIds =>
      inferInstanceAs (Decidable (_ → ∀ ordered ∈ IdText.parseAll groupIds,
        ∀ group ∈ layout.groups, FitsGroup _ _ _ group))
  | .createCategory _ _ _ _ => inferInstanceAs (Decidable True)
  | .reorderCategories _ _ => inferInstanceAs (Decidable True)
  | .deleteCategory _ _ _ => inferInstanceAs (Decidable True)

end LayoutCall

section Writes

variable {store : Store}

def channelRow (fresh : Uuid) (req : GroupSvc.CreatePublicGroupRequest)
    (store : Store) : GroupRow where
  id := fresh
  name := trim req.name
  description := trim req.description
  kind := .pub
  channelKind := GroupSvc.parseChannelKind req.channelKind
  categoryId := trim req.categoryId
  position := store.lastPosition (trim req.categoryId) + 1

private theorem guard_groups (decision : GuardrailDecision) (actor : Uuid)
    (action : ActionClass) (target : String) (store : Store) :
    ∃ after, GroupSvc.guard decision actor action target store =
        (decision.result, after) ∧ after.groups = store.groups := by
  cases decision <;> exact ⟨_, rfl, rfl⟩

private theorem insertChannel_eq (fresh : Uuid)
    (req : GroupSvc.CreatePublicGroupRequest) (store : Store) :
    GroupSvc.insertChannel fresh req store =
      if !store.hasGroup fresh then
        (.ok fresh, { store with
          groups := store.groups ++ [channelRow fresh req store] })
      else
        (.error Store.duplicate.toStatus, store) := by
  unfold GroupSvc.insertChannel Store.createPublicGroup orStatus
  unfold Effect.mapError
  rw [Effect.check_bind]
  split <;> rfl

private theorem addMember_groups (groupId userId : Uuid) (role : String)
    (store : Store) :
    (orStatus (Store.addMember groupId userId role) store).2.groups =
      store.groups := by
  have kept : (orStatus (Store.addMember groupId userId role)).Keeps
      fun after => after.groups = store.groups := by
    refine Effect.Keeps.mapError ?_ _
    refine (Effect.readOnly_check _ _).keeps.bind fun _ => ?_
    apply Effect.keeps_update
    intro before same
    split
    · exact same
    · exact same
  exact kept store rfl

private theorem insert_groups {after : Store}
    (same : after.groups = store.groups)
    (fresh userId : Uuid) (req : GroupSvc.CreatePublicGroupRequest) :
    ((do
      let groupId ← GroupSvc.insertChannel fresh req
      orStatus (Store.addMember groupId userId "owner") :
        Effect Store Status Unit) after).2.groups =
      if !store.hasGroup fresh then
        store.groups ++ [channelRow fresh req store]
      else
        store.groups := by
  have row : channelRow fresh req after = channelRow fresh req store := by
    unfold channelRow Store.lastPosition
    rw [same]
  have inserted := insertChannel_eq fresh req after
  have known : after.hasGroup fresh = store.hasGroup fresh := by
    unfold Store.hasGroup
    rw [same]
  rw [known, row, same] at inserted
  cases taken : store.hasGroup fresh with
  | false =>
      rw [taken] at inserted
      rw [Effect.bind_of_ok inserted, addMember_groups]
      rfl
  | true =>
      rw [taken] at inserted
      rw [Effect.bind_of_error inserted]
      exact same

private theorem guarded_groups {Value : Type} (decision : GuardrailDecision)
    (actor : Uuid) (action : ActionClass) (target : String)
    (rest : Unit → Effect Store Status Value) {written : List GroupRow}
    (writes : ∀ after, after.groups = store.groups →
      (rest () after).2.groups = written) :
    ((GroupSvc.guard decision actor action target >>= rest)
        store).2.groups =
      if decision.allowed then written else store.groups := by
  obtain ⟨after, guarded, same⟩ :=
    guard_groups decision actor action target store
  cases result : decision.result with
  | ok value =>
      have allowed : decision.allowed = true := by
        cases decision <;> first | rfl | cases result
      rw [result] at guarded
      rw [Effect.bind_of_ok guarded, allowed, if_pos rfl]
      exact writes after same
  | error status =>
      have refused : decision.allowed = false := by
        cases decision <;> first | rfl | cases result
      rw [result] at guarded
      rw [Effect.bind_of_error guarded, refused]
      exact same

private theorem createPublicGroup_groups (decision : GuardrailDecision)
    (fresh : Uuid) (token : Option Claims)
    (req : GroupSvc.CreatePublicGroupRequest) (server : Server) :
    (GroupSvc.createPublicGroup decision fresh token req
        server).2.store.groups =
      if LayoutCall.createsGroup decision fresh token req server.store then
        server.store.groups ++ [channelRow fresh req server.store]
      else
        server.store.groups := by
  rw [Joins.createPublicGroup_store]
  cases token with
  | none => rfl
  | some claims =>
      have written := guarded_groups decision claims.sub .createChannel
        (trim req.name)
        (fun _ => GroupSvc.insertChannel fresh req >>= fun groupId =>
          orStatus (Store.addMember groupId claims.sub "owner"))
        fun after (same : after.groups = server.store.groups) =>
          insert_groups same fresh claims.sub req
      simp only [GroupSvc.openCreate, bind_assoc, pure_bind,
        authenticate_bind, Authz.require, Effect.check_bind]
      simp only [LayoutCall.createsGroup, LayoutCall.mayManage,
        Option.any_some]
      split_ifs <;> simp_all

private theorem reorderChannels_groups (token : Option Claims)
    (categoryId : String)
    (groupIds : List IdText) (store : Store) :
    (GroupSvc.reorderChannels token categoryId groupIds store).2.groups =
      match LayoutCall.mayManage store token, IdText.parseAll groupIds with
      | true, some ordered =>
          (store.reorderChannels (trim categoryId) ordered).groups
      | _, _ => store.groups := by
  cases token with
  | none => rfl
  | some claims =>
      simp only [GroupSvc.reorderChannels, authenticate_bind, Authz.require,
        Effect.check_bind, LayoutCall.mayManage, Option.any_some]
      cases (Authz.effective store claims.sub).allows
        Permissions.manageChannels with
      | false => rfl
      | true =>
          cases IdText.parseAll groupIds with
          | none => rfl
          | some ordered => rfl

def cleared (id : Uuid) (group : GroupRow) : GroupRow :=
  if group.categoryId == id.text then { group with categoryId := "" }
  else group

private theorem deleteCategory_store (decision : GuardrailDecision)
    (token : Option Claims) (id : IdText) (store : Store) :
    (∃ parsed after, id.parse = some parsed ∧
      GroupSvc.deleteCategory decision token id store = (.ok (), after) ∧
      after.groups = store.groups.map (cleared parsed)) ∨
    ∃ status after,
      GroupSvc.deleteCategory decision token id store =
        (.error status, after) ∧ after.groups = store.groups := by
  cases token with
  | none => exact .inr ⟨_, _, rfl, rfl⟩
  | some claims =>
      simp only [GroupSvc.deleteCategory, authenticate_bind, Authz.require,
        Effect.check_bind]
      split_ifs
      · cases parsed : id.parse with
        | none => exact .inr ⟨_, _, rfl, rfl⟩
        | some known =>
            obtain ⟨after, guarded, same⟩ := guard_groups decision
              claims.sub .deleteChannel known.text store
            cases result : decision.result with
            | ok value =>
                rw [result] at guarded
                refine .inl ⟨known, _, rfl, Effect.bind_of_ok guarded _, ?_⟩
                change after.groups.map _ = _
                rw [same]
                rfl
            | error status =>
                rw [result] at guarded
                exact .inr ⟨_, _, Effect.bind_of_error guarded _, same⟩
      · exact .inr ⟨_, _, rfl, rfl⟩

/-- What the last mention in a list makes of a group. -/
def refiled (categoryId : String) (ordered : List Uuid) (group : GroupRow) :
    GroupRow :=
  match LayoutCall.lastPlace group.id ordered with
  | some place => { group with categoryId, position := place }
  | none => group

private theorem kind_refiled (categoryId : String) (ordered : List Uuid)
    (group : GroupRow) :
    (refiled categoryId ordered group).kind = group.kind := by
  unfold refiled
  split <;> rfl

private theorem foldl_placeChannel (categoryId : String)
    (entries : List (Uuid × ℕ))
    (groups : List GroupRow) :
    entries.foldl (Store.placeChannel categoryId) groups =
      groups.map fun group =>
        match (entries.reverse.find? (·.1 == group.id)).map (·.2) with
        | some place => { group with categoryId, position := place }
        | none => group := by
  induction entries using List.reverseRecOn with
  | nil => exact (List.map_id _).symm
  | append_singleton entries entry induction =>
      rw [List.foldl_append, induction, List.foldl_cons, List.foldl_nil,
        Store.placeChannel, List.map_map]
      refine List.map_congr_left fun group _ => ?_
      rw [List.reverse_concat, List.find?_cons, Function.comp_apply]
      by_cases last : entry.1 = group.id
      · rw [last, beq_self_eq_true]
        cases (entries.reverse.find? (·.1 == group.id)).map (·.2) with
        | none => simp
        | some place => simp
      · rw [beq_false_of_ne last]
        cases (entries.reverse.find? (·.1 == group.id)).map (·.2) with
        | none => simp [beq_false_of_ne (Ne.symm last)]
        | some place => simp [beq_false_of_ne (Ne.symm last)]

private theorem reorderChannels_eq (store : Store) (categoryId : String)
    (ordered : List Uuid) :
    (store.reorderChannels categoryId ordered).groups =
      store.groups.map (refiled categoryId ordered) :=
  foldl_placeChannel categoryId ordered.zipIdx store.groups

end Writes

namespace Layout

variable {layout : Layout}

theorem Known.mono {categories others : List CategoryRow}
    (kept : ∀ row ∈ categories, ∃ other ∈ others, other.id = row.id)
    {categoryId : String} (known : Known categories categoryId) :
    Known others categoryId := by
  rcases known with none | ⟨row, listed, same⟩
  · exact .inl none
  · obtain ⟨other, otherListed, sameId⟩ := kept row listed
    exact .inr ⟨other, otherListed, by rw [sameId, same]⟩

/-- The groups are as they were, and no category has gone. -/
structure Extends (before after : Layout) : Prop where
  groups : after.groups = before.groups
  kept : ∀ row ∈ before.categories,
    ∃ other ∈ after.categories, other.id = row.id

theorem Extends.refl (layout : Layout) : layout.Extends layout :=
  ⟨rfl, fun row listed => ⟨row, listed, rfl⟩⟩

theorem Extends.referenced {after : Layout} (extends' : layout.Extends after)
    (referenced : layout.Referenced) : after.Referenced := by
  intro group listed pub
  rw [extends'.groups] at listed
  exact (referenced group listed pub).mono extends'.kept

private theorem keeps_extends_onStore {inner : Effect Store Status Unit}
    (kept : ∀ groups, inner.Keeps fun store => store.groups = groups) :
    (onStore inner).Keeps (Extends layout) := by
  intro after extended
  exact ⟨kept _ after.server.store extended.groups, extended.kept⟩

private theorem keeps_extends_createCategory (decision : GuardrailDecision)
    (fresh : Uuid) (token : Option Claims) (name : String) :
    (createCategory decision fresh token name).Keeps (Extends layout) := by
  refine (Effect.readOnly_ofOption _ _).keeps.bind fun claims => ?_
  refine Effect.Keeps.bind (keeps_extends_onStore fun groups =>
    (Effect.readOnly_check _ _).keeps) fun _ => ?_
  refine (Effect.readOnly_check _ _).keeps.bind fun _ => ?_
  refine Effect.Keeps.bind (keeps_extends_onStore fun groups => ?_) fun _ => ?_
  · intro store same
    obtain ⟨after, guarded, unchanged⟩ := guard_groups decision claims.sub
      .createChannel (trim name) store
    rw [guarded]
    exact unchanged.trans same
  · refine Effect.Keeps.bind (Effect.Keeps.mapError ?_ _) fun id => ?_
    · refine (Effect.readOnly_check _ _).keeps.bind fun _ => ?_
      refine Effect.Keeps.bind (Effect.keeps_update ?_) fun _ =>
        (Effect.readOnly_pure _).keeps
      intro after extended
      refine ⟨extended.groups, fun row listed => ?_⟩
      obtain ⟨other, member, same⟩ := extended.kept row listed
      exact ⟨other, List.mem_append_left _ member, same⟩
    · exact (Effect.readOnly_require _ _).keeps

private theorem ids_foldl_placeCategory (entries : List (Uuid × ℕ))
    (categories : List CategoryRow) :
    (entries.foldl placeCategory categories).map (·.id) =
      categories.map (·.id) := by
  induction entries generalizing categories with
  | nil => rfl
  | cons entry rest induction =>
      rw [List.foldl_cons, induction, placeCategory, List.map_map]
      refine List.map_congr_left fun row _ => ?_
      rw [Function.comp_apply]
      split <;> rfl

private theorem keeps_extends_reorderCategories (token : Option Claims)
    (categoryIds : List IdText) :
    (reorderCategories token categoryIds).Keeps (Extends layout) := by
  refine (Effect.readOnly_ofOption _ _).keeps.bind fun claims => ?_
  refine Effect.Keeps.bind (keeps_extends_onStore fun groups =>
    (Effect.readOnly_check _ _).keeps) fun _ => ?_
  refine (Effect.readOnly_ofOption _ _).keeps.bind fun ids => ?_
  apply Effect.keeps_update
  intro after extended
  refine ⟨extended.groups, fun row listed => ?_⟩
  obtain ⟨other, member, same⟩ := extended.kept row listed
  have id : other.id ∈ (ids.zipIdx.foldl placeCategory
      after.categories).map (·.id) := by
    rw [ids_foldl_placeCategory]
    exact List.mem_map_of_mem member
  obtain ⟨moved, movedMember, movedSame⟩ := List.mem_map.mp id
  exact ⟨moved, movedMember, movedSame.trans same⟩

private theorem onStore_eq {inner : Effect Store Status Value}
    {result : Except Status Value} {after : Store}
    (ran : inner layout.server.store = (result, after)) :
    onStore inner layout =
      (result, { layout with
        server := { layout.server with store := after } }) := by
  simp only [onStore, onServer, Effect.zoom, Server.onStore, ran]

section StorePart

variable {Next : Type}

theorem onStore_bind (first : Effect Store Status Value)
    (rest : Value → Effect Store Status Next) :
    onStore (first >>= rest) =
      onStore first >>= fun value => onStore (rest value) := by
  funext layout
  rcases ran : first layout.server.store with ⟨error | value, after⟩
  · rw [Effect.bind_of_error (onStore_eq ran),
      onStore_eq (Effect.bind_of_error ran rest)]
  · rw [Effect.bind_of_ok (onStore_eq ran)]
    simp only [onStore, onServer, Effect.zoom, Server.onStore,
      Effect.bind_of_ok ran]

private theorem onStore_check (passed : Bool) (error : Status) :
    onStore (Effect.check (fun _ => passed) error) =
      Effect.check (fun _ => passed) error := by
  funext layout
  cases passed <;> rfl

private theorem store_of_onStore_bind {inner : Effect Store Status Value}
    {rest : Value → Effect Layout Status Next}
    (kept : ∀ value after,
      (rest value after).2.server.store = after.server.store) :
    ((onStore inner >>= rest) layout).2.server.store =
      (inner layout.server.store).2 := by
  rcases ran : inner layout.server.store with ⟨error | value, after⟩
  · rw [Effect.bind_of_error (onStore_eq ran)]
  · rw [Effect.bind_of_ok (onStore_eq ran), kept]

/-- What the handlers of categories do to the store they do without the table
of categories as well. -/
theorem createCategory_store (decision : GuardrailDecision) (fresh : Uuid)
    (token : Option Claims) (name : String) :
    (createCategory decision fresh token name layout).2.server.store =
      (GroupSvc.createCategory decision token name layout.server.store).2 := by
  cases token with
  | none => rfl
  | some claims =>
      have parted : createCategory decision fresh (some claims) name =
          onStore (GroupSvc.createCategory decision (some claims) name) >>=
            fun _ => (do
              let id ← orStatus (insertCategory fresh (trim name))
              Effect.require
                (fun layout => layout.categories.find? (·.id == id))
                (ServerError.notFound "category")) := by
        simp only [createCategory, GroupSvc.createCategory,
          authenticate_bind, onStore_bind, onStore_check, bind_assoc]
      rw [parted]
      apply store_of_onStore_bind
      intro _ after
      have kept : (orStatus (insertCategory fresh (trim name))).Keeps
          fun layout : Layout =>
            layout.server.store = after.server.store := by
        refine Effect.Keeps.mapError ?_ _
        refine (Effect.readOnly_check _ _).keeps.bind fun _ => ?_
        refine Effect.Keeps.bind (Effect.keeps_update ?_) fun _ =>
          (Effect.readOnly_pure _).keeps
        exact fun _ same => same
      exact (kept.bind fun _ => (Effect.readOnly_require _ _).keeps) after rfl

theorem reorderCategories_store (token : Option Claims)
    (categoryIds : List IdText) :
    (reorderCategories token categoryIds layout).2.server.store =
      (GroupSvc.reorderCategories token categoryIds
        layout.server.store).2 := by
  cases token with
  | none => rfl
  | some claims =>
      have unchanged : (GroupSvc.reorderCategories (some claims)
          categoryIds layout.server.store).2 = layout.server.store :=
        (readOnly_authenticate _).bind (fun _ =>
          (Authz.readOnly_require _ _).bind fun _ =>
            Effect.readOnly_ofOption _ _) layout.server.store
      rw [unchanged]
      have kept : (reorderCategories (some claims) categoryIds).Keeps
          fun after : Layout => after.server.store = layout.server.store := by
        refine (Effect.readOnly_ofOption _ _).keeps.bind fun claims => ?_
        refine Effect.Keeps.bind ?_ fun _ => ?_
        · intro after same
          exact (Authz.readOnly_require claims.sub
            Permissions.manageChannels after.server.store).trans same
        · refine (Effect.readOnly_ofOption _ _).keeps.bind fun ids => ?_
          exact Effect.keeps_update fun _ same => same
      exact kept layout rfl

end StorePart

private theorem known_cleared {categories : List CategoryRow} {id : Uuid}
    {group : GroupRow} (known : Known categories group.categoryId) :
    Known (categories.filter (·.id != id)) (cleared id group).categoryId := by
  unfold cleared
  split
  · exact .inl rfl
  · rename_i other
    rcases known with none | ⟨row, listed, same⟩
    · exact .inl none
    · refine .inr ⟨row, List.mem_filter.mpr ⟨listed, ?_⟩, same⟩
      rw [bne_iff_ne]
      rintro rfl
      exact other (beq_iff_eq.mpr same.symm)

private theorem kind_cleared (id : Uuid) (group : GroupRow) :
    (cleared id group).kind = group.kind := by
  unfold cleared
  split <;> rfl

theorem Referenced.deleteCategory (referenced : layout.Referenced)
    (decision : GuardrailDecision) (token : Option Claims) (id : IdText) :
    (layout.step (.deleteCategory decision token id)).Referenced := by
  change (Layout.deleteCategory decision token id layout).2.Referenced
  rcases deleteCategory_store decision token id layout.server.store with
    ⟨parsed, after, known, ran, groups⟩ | ⟨status, after, ran, groups⟩
  · rw [Layout.deleteCategory, Effect.bind_of_ok (onStore_eq ran), known]
    intro group listed pub
    change group ∈ after.groups at listed
    rw [groups] at listed
    obtain ⟨before, member, rfl⟩ := List.mem_map.mp listed
    rw [kind_cleared] at pub
    exact known_cleared (referenced before member pub)
  · rw [Layout.deleteCategory, Effect.bind_of_error (onStore_eq ran)]
    intro group listed
    change group ∈ after.groups at listed
    rw [groups] at listed
    exact referenced group listed

private theorem referenced_create_iff (referenced : layout.Referenced)
    (decision : GuardrailDecision) (fresh : Uuid) (token : Option Claims)
    (req : GroupSvc.CreatePublicGroupRequest) :
    (layout.step
        (.createPublicGroup decision fresh token req)).Referenced ↔
      LayoutCall.Sound layout
        (.createPublicGroup decision fresh token req) := by
  have groups := createPublicGroup_groups decision fresh token req
    layout.server
  change (∀ group ∈ (GroupSvc.createPublicGroup decision fresh token req
    layout.server).2.store.groups, _) ↔ _
  rw [groups]
  unfold LayoutCall.Sound
  split_ifs with creates
  · rw [List.forall_mem_append, List.forall_mem_singleton]
    constructor
    · exact fun all _ => all.2 rfl
    · exact fun known => ⟨referenced, fun _ => known creates⟩
  · exact ⟨fun _ creates' => absurd creates' creates, fun _ => referenced⟩

section Reorder

variable {categories : List CategoryRow} {group : GroupRow}
  (categoryId : String) (ordered : List Uuid)

private theorem fitsGroup_iff
    (known : group.kind = .pub → Known categories group.categoryId) :
    LayoutCall.FitsGroup categories categoryId ordered group ↔
      (group.kind = .pub →
        Known categories (refiled categoryId ordered group).categoryId) ∧
      (group.kind = .priv → refiled categoryId ordered group = group) := by
  unfold LayoutCall.FitsGroup refiled
  cases LayoutCall.lastPlace group.id ordered with
  | none => exact ⟨fun _ => ⟨known, fun _ => rfl⟩, fun _ => nofun⟩
  | some place =>
      cases kind : group.kind with
      | pub =>
          constructor
          · exact fun fits => ⟨fun _ => fits place rfl, nofun⟩
          · rintro ⟨holds, _⟩ _ ⟨⟩
            exact holds rfl
      | priv =>
          constructor
          · intro fits
            obtain ⟨sameCategory, samePlace⟩ := fits place rfl
            refine ⟨nofun, fun _ => ?_⟩
            cases group
            cases kind
            cases sameCategory
            cases samePlace
            rfl
          · rintro ⟨_, same⟩ _ ⟨⟩
            have unchanged := same rfl
            exact ⟨congrArg GroupRow.categoryId unchanged.symm,
              congrArg GroupRow.position unchanged.symm⟩

private theorem refiled_groups_iff (referenced : layout.Referenced) :
    ((∀ group ∈ layout.groups.map (refiled categoryId ordered),
        group.kind = .pub → Known layout.categories group.categoryId) ∧
      (layout.groups.map (refiled categoryId ordered)).filter
        (·.kind = .priv) = layout.privateGroups) ↔
      ∀ group ∈ layout.groups,
        LayoutCall.FitsGroup layout.categories categoryId ordered group := by
  have sameKinds : (fun group : GroupRow => decide (group.kind = .priv)) ∘
      refiled categoryId ordered =
        fun group => decide (group.kind = .priv) := by
    funext group
    rw [Function.comp_apply, kind_refiled]
  have spared : (layout.groups.map (refiled categoryId ordered)).filter
      (·.kind = .priv) = layout.privateGroups ↔
        ∀ group ∈ layout.groups, group.kind = .priv →
          refiled categoryId ordered group = group := by
    rw [List.filter_map, sameKinds]
    unfold privateGroups
    constructor
    · intro same group listed priv
      rw [← List.map_id (layout.groups.filter (·.kind = .priv)),
        List.map_map, List.map_inj_left] at same
      exact same group (List.mem_filter.mpr ⟨listed, by simp [priv]⟩)
    · intro same
      rw [List.map_congr_left (g := id), List.map_id]
      intro group member
      obtain ⟨listed, priv⟩ := List.mem_filter.mp member
      exact same group listed (of_decide_eq_true priv)
  rw [spared, List.forall_mem_map]
  simp only [kind_refiled]
  constructor
  · rintro ⟨pub, priv⟩ group listed
    exact (fitsGroup_iff categoryId ordered (referenced group listed)).mpr
      ⟨pub group listed, priv group listed⟩
  · intro fits
    constructor
    · exact fun group listed => ((fitsGroup_iff categoryId ordered
        (referenced group listed)).mp (fits group listed)).1
    · exact fun group listed => ((fitsGroup_iff categoryId ordered
        (referenced group listed)).mp (fits group listed)).2

end Reorder

/-- A reorder keeps the references, and spares the private groups, exactly if
it fits all groups. -/
private theorem reorder_iff (referenced : layout.Referenced)
    (token : Option Claims)
    (categoryId : String) (groupIds : List IdText) :
    ((layout.step (.reorderChannels token categoryId groupIds)).Referenced ∧
      SparesPrivate layout (.reorderChannels token categoryId groupIds)) ↔
      LayoutCall.Sound layout
        (.reorderChannels token categoryId groupIds) := by
  have groups := reorderChannels_groups token categoryId groupIds
    layout.server.store
  change ((∀ group ∈ (GroupSvc.reorderChannels token categoryId groupIds
    layout.server.store).2.groups, _) ∧ (GroupSvc.reorderChannels token
    categoryId groupIds layout.server.store).2.groups.filter _ = _) ↔ _
  rw [groups]
  unfold LayoutCall.Sound
  cases permitted : LayoutCall.mayManage layout.server.store token with
  | false =>
      refine ⟨fun _ granted => ?_, fun _ => ⟨referenced, rfl⟩⟩
      rw [permitted] at granted
      cases granted
  | true =>
      cases parsed : IdText.parseAll groupIds with
      | none =>
          refine ⟨fun _ _ ordered listed => ?_, fun _ => ⟨referenced, rfl⟩⟩
          rw [parsed] at listed
          cases listed
      | some ordered =>
          dsimp only
          rw [reorderChannels_eq]
          refine (refiled_groups_iff (trim categoryId) ordered
            referenced).trans ?_
          constructor
          · intro fits _ other listed
            rw [parsed] at listed
            cases listed
            exact fits
          · exact fun fits => fits permitted ordered parsed

theorem step_iff (referenced : layout.Referenced) (call : LayoutCall) :
    ((layout.step call).Referenced ∧ SparesPrivate layout call) ↔
      LayoutCall.Sound layout call := by
  cases call with
  | createPublicGroup decision fresh token req =>
      have created := referenced_create_iff referenced decision fresh token req
      exact ⟨fun both => created.mp both.1,
        fun sound => ⟨created.mpr sound, trivial⟩⟩
  | reorderChannels token categoryId groupIds =>
      exact reorder_iff referenced token categoryId groupIds
  | createCategory decision fresh token name =>
      have kept := keeps_extends_createCategory decision fresh token name
        layout (.refl layout)
      exact ⟨fun _ => trivial, fun _ => ⟨kept.referenced referenced, trivial⟩⟩
  | reorderCategories token categoryIds =>
      have kept := keeps_extends_reorderCategories token categoryIds layout
        (.refl layout)
      exact ⟨fun _ => trivial, fun _ => ⟨kept.referenced referenced, trivial⟩⟩
  | deleteCategory decision token id =>
      have kept := referenced.deleteCategory decision token id
      exact ⟨fun _ => trivial, fun _ => ⟨kept, trivial⟩⟩

/-- In every run. -/
theorem category_references (referenced : layout.Referenced)
    (calls : List LayoutCall) :
    EventRun.Always step Referenced layout calls ∧
        EventRun.Each step SparesPrivate layout calls ↔
      EventRun.Each step LayoutCall.Sound layout calls := by
  have exactly (before : Layout) (call : LayoutCall)
      (holds : before.Referenced) :
      (before.step call).Referenced ∧ SparesPrivate before call ↔
        LayoutCall.Sound before call := step_iff holds call
  exact EventRun.always_and_each_iff exactly referenced calls

def hall : Layout where
  server :=
    { store :=
        { users := [⟨1, "ada", "Ada", "", true, false, none, ""⟩]
          groups := [⟨5, "Direct message", "", .priv, .text, "", 0⟩] } }

def owner : Option Claims := some ⟨1, 10⟩

def tidyCalls : List LayoutCall :=
  [.createCategory .allow 7 owner " Text Channels ",
    .createPublicGroup .allow 8 owner
      ⟨"general", "", "text", Uuid.text 7 ++ " "⟩,
    .reorderChannels owner "" [.uuid 8], .reorderCategories owner [.uuid 7],
    .deleteCategory .allow owner (.uuid 7)]

theorem category_references_tidyCalls :
    EventRun.Always step Referenced hall tidyCalls ∧
      EventRun.Each step SparesPrivate hall tidyCalls :=
  (category_references (by decide +kernel) tidyCalls).mpr
    (by decide +kernel)

/-- A channel in a category that never was, and a private group that is put
in the second place of a list. -/
theorem category_references_fail :
    hall.Referenced ∧
      ¬EventRun.Always step Referenced hall
        [.createPublicGroup .allow 8 owner
          ⟨"general", "", "text", "nowhere"⟩] ∧
      ¬EventRun.Each step SparesPrivate hall
        [.reorderChannels owner "" [.uuid 8, .uuid 5]] := by
  decide +kernel

end Layout

end Accord

import Accord.Library.EventRun
import Accord.Server.Groups.Enrolment
import Accord.Server.Guardrails.Gate
import Accord.Server.Roles.Admission

/-! Runs of moderated calls of one actor, and what the guardrails hold them
to. -/

namespace Accord

/-- The times at which the actor did something of the class. -/
def timesOf (deeds : List Deed) (actor : Uuid) (action : ActionClass) :
    List ℕ :=
  (deeds.filter fun deed => deed.actor == actor && deed.action == action).map
    (·.time)

theorem timesOf_append (deeds : List Deed) (deed : Deed) (actor : Uuid)
    (action : ActionClass) :
    timesOf (deeds ++ [deed]) actor action =
      timesOf deeds actor action ++
        if deed.actor = actor ∧ deed.action = action then [deed.time]
        else [] := by
  simp only [timesOf, List.filter_append, List.map_append]
  congr 1
  by_cases same : deed.actor = actor ∧ deed.action = action
  · simp [same]
  · simp only [List.filter_cons, List.filter_nil, Bool.and_eq_true,
      beq_iff_eq, same, if_false, List.map_nil]

def ActionClass.isRole : ActionClass → Bool
  | .createRole | .updateRole | .deleteRole | .assignRole => true
  | _ => false

namespace Moderated

/-- Every deed of the actor has taken a token of its class, and there are no
more of a class in any span than its budget gives. -/
structure Limited (actor : Uuid) (moderated : Moderated) : Prop where
  covered : ∀ action, (timesOf moderated.done actor action).Sublist
    (timesOf moderated.taken actor action)
  within : ∀ action : ActionClass,
    RateLimit.Within action.budget.1 (action.budget.2 / 10 ^ 9)
      (timesOf moderated.done actor action)

/-- The buckets account for the tokens taken; none is for a role. -/
structure Tallied (actor : Uuid) (moderated : Moderated) : Prop where
  accounts : ∀ action, moderated.guardrails.Accounts actor action
    (timesOf moderated.taken actor action)
  covered : ∀ action, (timesOf moderated.done actor action).Sublist
    (timesOf moderated.taken actor action)
  roleless : ∀ action : ActionClass, action.isRole = true →
    timesOf moderated.taken actor action = []

theorem Tallied.limited {actor : Uuid} {moderated : Moderated}
    (tallied : Tallied actor moderated) : Limited actor moderated where
  covered := tallied.covered
  within action :=
    (tallied.accounts action).within.sublist (tallied.covered action)

def SameTally (start moderated : Moderated) : Prop :=
  moderated = { start with server := moderated.server }

section Tally

variable {actor : Uuid} {start moderated : Moderated}

theorem Tallied.of_same (tallied : Tallied actor start)
    (same : start.SameTally moderated) : Tallied actor moderated := by
  rw [same]
  exact ⟨tallied.accounts, tallied.covered, tallied.roleless⟩

theorem onServer_sameTally {Value : Type}
    (inner : Effect Server Status Value) (moderated : Moderated) :
    moderated.SameTally (onServer inner moderated).2 := rfl

variable (assess : String → List String → Option String)
  {action : ActionClass} {ctx : ActionContext} {now : ℕ}

private theorem consult_taken (ordinary : ctx.isOwner = false) :
    (consult assess now actor action ctx moderated).2.taken =
      if (moderated.guardrails.checkAt assess actor action ctx now).1.allowed
        then moderated.taken ++ [⟨now, actor, action⟩]
        else moderated.taken := by
  have charged := Guardrails.charges_of_ordinary ordinary moderated.guardrails
  have passed := (Guardrails.checkAt_charged assess charged actor action
    now).2
  have takes : moderated.guardrails.takes actor action ctx now =
      (moderated.guardrails.checkAt assess actor action ctx
        now).1.allowed := by
    rw [Bool.eq_iff_iff, passed]
    simp [Guardrails.takes, ordinary]
  rw [← takes]
  rfl

private theorem timesOf_consult (ordinary : ctx.isOwner = false)
    (other : ActionClass) :
    timesOf (consult assess now actor action ctx moderated).2.taken actor
        other =
      if other = action then
        (if (moderated.guardrails.checkAt assess actor action ctx
            now).1.allowed then timesOf moderated.taken actor action ++ [now]
          else timesOf moderated.taken actor action)
      else timesOf moderated.taken actor other := by
  rw [consult_taken assess ordinary]
  by_cases same : other = action
  · subst same
    split
    · simp [timesOf_append]
    · simp
  · have differs : action ≠ other := fun equal => same equal.symm
    split
    · simp [timesOf_append, differs]
    · simp

private theorem consult_tallied (ordinary : ctx.isOwner = false)
    (classed : action.isRole = false) (tallied : Tallied actor moderated)
    (inOrder : moderated.guardrails.NotAhead actor now) :
    Tallied actor (consult assess now actor action ctx moderated).2 ∧
      (consult assess now actor action ctx moderated).2.guardrails.NotAhead
        actor now ∧
      ((moderated.guardrails.checkAt assess actor action ctx
          now).1.allowed = true →
        (consult assess now actor action ctx moderated).2.taken =
          moderated.taken ++ [⟨now, actor, action⟩]) := by
  have charged := Guardrails.charges_of_ordinary ordinary moderated.guardrails
  have times : ∀ other, timesOf
      (consult assess now actor action ctx moderated).2.taken actor other =
        _ := timesOf_consult assess ordinary
  refine ⟨⟨?_, ?_, ?_⟩, ?_, ?_⟩
  · intro other
    rw [times other]
    by_cases same : other = action
    · subst same
      rw [if_pos rfl]
      exact Guardrails.checkAt_accounts assess charged
        (tallied.accounts other) inOrder
    · rw [if_neg same]
      have different : (actor, other) ≠ (actor, action) := by simp [same]
      exact (Guardrails.checkAt_frame assess charged different _ _).mpr
        (tallied.accounts other)
  · intro other
    refine (tallied.covered other).trans ?_
    rw [times other]
    split_ifs with same
    · subst same
      exact List.sublist_append_left _ _
    · subst same
      exact List.Sublist.refl _
    · exact List.Sublist.refl _
  · intro other role
    have different : other ≠ action := by
      rintro rfl
      rw [classed] at role
      cases role
    rw [times other, if_neg different]
    exact tallied.roleless other role
  · exact Guardrails.checkAt_notAhead assess charged inOrder _ _
  · intro allowed
    rw [consult_taken assess ordinary, if_pos allowed]

/-- Ready for a check of the actor at the time `now`. -/
structure Prepared (actor : Uuid) (now : ℕ) (moderated : Moderated) :
    Prop where
  tallied : Tallied actor moderated
  inOrder : moderated.guardrails.NotAhead actor now

theorem Prepared.of_same (prepared : Prepared actor now start)
    (same : start.SameTally moderated) : Prepared actor now moderated := by
  constructor
  · exact prepared.tallied.of_same same
  · rw [same]
    exact prepared.inOrder

private theorem guard_eq (target : String) (name : Option String)
    (recentNames : List String) :
    guard assess now actor action target name recentNames moderated =
      let ctx := { name, recentNames, isOwner :=
        moderated.server.store.isOwner actor }
      onServer (Server.onStore (GroupSvc.guard
          (moderated.guardrails.checkAt assess actor action ctx now).1 actor
          action target))
        (consult assess now actor action ctx moderated).2 := rfl

private theorem guard_prepared {target : String} {name : Option String}
    {recentNames : List String}
    (ordinary : moderated.server.store.isOwner actor = false)
    (classed : action.isRole = false)
    (prepared : Prepared actor now moderated) :
    (guard assess now actor action target name recentNames).Post moderated
      fun result after => Prepared actor now after ∧
        after.done = moderated.done ∧ (result = .ok () →
          after.taken = moderated.taken ++ [⟨now, actor, action⟩]) := by
  let ctx : ActionContext :=
    { name, recentNames, isOwner := moderated.server.store.isOwner actor }
  have unowned : ctx.isOwner = false := ordinary
  obtain ⟨tallied, inOrder, charged⟩ := consult_tallied assess unowned
    classed prepared.tallied prepared.inOrder
  have ready : Prepared actor now (consult assess now actor action ctx
      moderated).2 := ⟨tallied, inOrder⟩
  rw [Effect.Post, guard_eq]
  refine ⟨ready.of_same (onServer_sameTally _ _), rfl, fun passed => ?_⟩
  exact charged
    ((GroupSvc.guard_passes _ actor action target
      moderated.server.store).mp passed)

theorem Tallied.record {deed : Deed} (before : Tallied actor start)
    (after : Tallied actor moderated)
    (charged : moderated.taken = start.taken ++ [deed])
    (pending : moderated.done = start.done) :
    Tallied actor
      { moderated with done := moderated.done ++ [deed] } where
  accounts := after.accounts
  covered action := by
    change (timesOf (moderated.done ++ [deed]) actor action).Sublist
      (timesOf moderated.taken actor action)
    rw [charged, pending, timesOf_append, timesOf_append]
    exact (before.covered action).append_right _
  roleless := after.roleless

end Tally

end Moderated

namespace Gate

open Moderated

variable {Ticket Result : Type} {gate : Gate Ticket Result} {actor : Uuid}
  {now : ℕ} {moderated : Moderated}
  (assess : String → List String → Option String)

theorem prepared_runAt (readOnly : gate.enter.ReadOnly)
    (own : gate.enter.Yields fun ticket => gate.actor ticket = actor)
    (classed : gate.action.isRole = false)
    (ordinary : moderated.server.store.isOwner actor = false)
    (prepared : Prepared actor now moderated) :
    (gate.runAt assess now).Post moderated fun _ after =>
      Prepared actor now after := by
  have admitting : (Moderated.onServer gate.enter).ReadOnly := by
    intro start
    change { start with server := (gate.enter start.server).2 } = start
    rw [readOnly]
  refine admitting.post_bind (fun _ _ => prepared) ?_
  intro ticket admitted
  obtain rfl : gate.actor ticket = actor := own _ _ admitted
  cases exempt : gate.exempt ticket with
  | true => exact prepared.of_same (onServer_sameTally _ moderated)
  | false =>
      refine Effect.post_bind_of_ok (Effect.read_of_eq rfl) ?_
      refine Effect.post_bind
        (guard_prepared assess ordinary classed prepared)
        (fun _ _ left => left.1) ?_
      rintro _ checked ⟨ready, pending, charged⟩
      have performed :
          (Moderated.onServer (gate.perform ticket)).Post checked fun _ after =>
            checked.SameTally after :=
        onServer_sameTally (gate.perform ticket) checked
      refine Effect.post_bind performed
        (fun _ _ same => ready.of_same same) ?_
      intro _ after same
      have kept := ready.of_same same
      refine ⟨prepared.tallied.record kept.tallied ?_ ?_, kept.inOrder⟩
      · rw [same]
        exact charged rfl
      · rw [same]
        exact pending

/-- The server goes the way of the inner computation, and so does the
result. -/
def Mirrors {Value : Type} (outer : Effect Moderated Status Value)
    (inner : Effect Server Status Value) (moderated : Moderated) : Prop :=
  inner moderated.server = ((outer moderated).1, (outer moderated).2.server)

private theorem mirrors_onServer {Value : Type}
    (inner : Effect Server Status Value)
    (moderated : Moderated) :
    Mirrors (Moderated.onServer inner) inner moderated := rfl

theorem Mirrors.bind {Value Next : Type}
    {outer : Effect Moderated Status Value}
    {inner : Effect Server Status Value}
    (first : Mirrors outer inner moderated)
    {outerRest : Value → Effect Moderated Status Next}
    {innerRest : Value → Effect Server Status Next}
    (rest : ∀ value after, outer moderated = (.ok value, after) →
      Mirrors (outerRest value) (innerRest value) after) :
    Mirrors (outer >>= outerRest) (inner >>= innerRest) moderated := by
  unfold Mirrors at first ⊢
  rcases ran : outer moderated with ⟨result, after⟩
  rw [ran] at first
  cases result with
  | ok value =>
      rw [Effect.bind_of_ok ran, Effect.bind_of_ok first]
      exact rest value after ran
  | error status =>
      rw [Effect.bind_of_error ran, Effect.bind_of_error first]

/-- The guardrails decide, and the call goes as it does with a decision. -/
theorem runAt_mirrors (gate : Gate Ticket Result) (now : ℕ)
    (moderated : Moderated) :
    ∃ decision, Mirrors (gate.runAt assess now) (gate.run decision)
      moderated := by
  rcases admitted : Moderated.onServer gate.enter moderated with
    ⟨result, entered⟩
  cases result with
  | error status =>
      refine ⟨.allow, (mirrors_onServer gate.enter moderated).bind ?_⟩
      intro ticket after same
      rw [admitted] at same
      cases same
  | ok ticket =>
      let ctx : ActionContext :=
        { name := gate.name ticket
          recentNames := gate.recentNames ticket entered.server
          isOwner := entered.server.store.isOwner (gate.actor ticket) }
      refine ⟨(entered.guardrails.checkAt assess (gate.actor ticket)
        gate.action ctx now).1,
        (mirrors_onServer gate.enter moderated).bind ?_⟩
      intro _ _ same
      rw [admitted] at same
      cases same
      cases exempt : gate.exempt ticket with
      | true => exact mirrors_onServer _ entered
      | false =>
          have asked : Mirrors
              (guard assess now (gate.actor ticket) gate.action
                (gate.target ticket) (gate.name ticket) ctx.recentNames)
              (Server.onStore (GroupSvc.guard
                (entered.guardrails.checkAt assess (gate.actor ticket)
                  gate.action ctx now).1
                (gate.actor ticket) gate.action (gate.target ticket)))
              entered := rfl
          refine asked.bind fun _ checked _ => ?_
          have performed : Mirrors
              (do
                let result ← Moderated.onServer (gate.perform ticket)
                Moderated.record ⟨now, gate.actor ticket, gate.action⟩
                return result)
              (gate.perform ticket >>= pure) checked :=
            (mirrors_onServer _ checked).bind fun _ _ _ => rfl
          rw [bind_pure] at performed
          exact performed

end Gate
end Accord

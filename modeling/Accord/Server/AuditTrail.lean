import Accord.Server.Standing

/-! The audit log over runs of calls: who gets into it, and that nothing gets
out. -/

namespace Accord

/-- The row reports what the guardrails decided about an action of the user. -/
def AuditRow.Reports (row : AuditRow) (user : Uuid) : Prop :=
  ∃ (action : ActionClass) (decision : GuardrailDecision),
    row.actorId = user ∧ row.action = action.asStr ∧
      decision.audit = some (row.outcome, row.reason)

/-- The log has grown, by reports on the caller alone. -/
def Store.Reported (caller : Uuid → Prop) (before after : Store) : Prop :=
  ∃ newer, after.auditLog = before.auditLog ++ newer ∧
    ∀ row ∈ newer, ∃ user, caller user ∧ row.Reports user

namespace Store.Reported

variable {caller : Uuid → Prop}

theorem of_eq {before after : Store} (same : after.auditLog = before.auditLog) :
    before.Reported caller after :=
  ⟨[], by rw [same, List.append_nil], nofun⟩

theorem trans {first second third : Store}
    (reported : first.Reported caller second)
    (again : second.Reported caller third) : first.Reported caller third := by
  obtain ⟨newer, same, reports⟩ := reported
  obtain ⟨newest, also, too⟩ := again
  refine ⟨newer ++ newest, by rw [also, same, List.append_assoc], ?_⟩
  intro row added
  rcases List.mem_append.mp added with earlier | later
  · exact reports row earlier
  · exact too row later

theorem imp {more : Uuid → Prop} {before after : Store}
    (reported : before.Reported caller after)
    (weaken : ∀ user, caller user → more user) :
    before.Reported more after := by
  obtain ⟨newer, grown, reports⟩ := reported
  refine ⟨newer, grown, fun row added => ?_⟩
  obtain ⟨user, called, report⟩ := reports row added
  exact ⟨user, weaken user called, report⟩

end Store.Reported

/-- Without any permission that a guarded call asks for, and without that for
the roles that carry them. -/
structure Unable (store : Store) (user : Uuid) : Prop
    extends Powerless store user where
  server : (Authz.effective store user).allows
    Permissions.manageServer = false

private theorem Store.SamePowers.unable {before after : Store}
    (same : before.SamePowers after) {user : Uuid}
    (unable : Unable before user) : Unable after user where
  toPowerless := same.powerless unable.toPowerless
  server := by
    rw [same.effective user]
    exact unable.server

namespace Statement

variable {start before after : Store} {request : Request}

theorem reported (statement : Statement start request before after) :
    before.Reported (fun user =>
      request.caller = some user ∧ ¬ Unable before user) after := by
  cases statement with
  | audit user action target outcome reason decision signed notable allowed =>
      refine ⟨[⟨user, action.asStr, target, outcome, reason⟩], rfl, ?_⟩
      intro row added
      rw [List.mem_singleton.mp added]
      refine ⟨user, ⟨signed, ?_⟩, action, decision, rfl, rfl, notable⟩
      rintro ⟨⟨channels, roles, kicks, bans⟩, server⟩
      obtain ⟨permission, guards, allowed⟩ := allowed
      cases action <;> cases guards <;> simp_all
  | elsewhere change same => exact .of_eq same.audits
  | ban user target reason =>
      obtain ⟨bans, same⟩ := before.banUser_only target user reason
      rw [same]
      exact .of_eq rfl
  | role user call after signed written =>
      obtain ⟨roles, memberRoles, rfl⟩ := written.only_roles
      exact .of_eq rfl
  | _ => exact .of_eq rfl

end Statement

namespace ServerCall

variable (crypto : AuthCrypto) (config : AuthConfig)

/-- The user is the call's own caller, who may moderate. -/
def Answers (server : Server) (call : ServerCall) (user : Uuid) : Prop :=
  call.caller = some user ∧ ¬ Unable server.store user

private theorem step_reported (server : Server) (call : ServerCall) :
    server.store.Reported (Answers server call)
      (step crypto config server call).store := by
  have led := step_led crypto config server call
  by_cases able : ∃ user, Answers server call user
  · obtain ⟨caller, signed, able⟩ := able
    refine led.relates (fun _ => .of_eq rfl) .trans
      fun before after statement => statement.reported.imp fun user own => ?_
    rw [Option.some.inj (own.1.symm.trans signed)]
    exact ⟨signed, able⟩
  · -- no write of such a call gives anybody the permission that is missing
    have unable : ∀ user, call.caller = some user →
        Unable server.store user := fun user signed =>
      not_not.mp fun able' => able ⟨user, signed, able'⟩
    refine (led.keeps (fun after =>
      server.store.Reported (Answers server call) after ∧
        (call.caller.isSome = true → server.store.SamePowers after))
      (fun before after statement holds => ?_)
      ⟨.of_eq rfl, fun _ => .refl _⟩).1
    have still : ∀ user, call.caller = some user → Unable before user :=
      fun user signed => (holds.2 (Option.isSome_iff_exists.mpr
        ⟨user, signed⟩)).unable (unable user signed)
    have unmoved := statement.unmoved fun user signed =>
      (still user signed).toPowerless
    refine ⟨holds.1.trans (statement.reported.imp fun user own => ?_),
      fun signed => (holds.2 signed).trans ⟨statement.sameAccounts signed,
        unmoved.roles, unmoved.memberRoles⟩⟩
    exact absurd (still user own.1) own.2

/-- The owner bans somebody in haste, opens one channel too many and renames the
tavern too often; a member tries the same. -/
example :
    (EventRun.run (step hallCrypto ⟨true, true⟩) { store := directStore } [
      .session (.banMember (.allowFlagged "in haste") (some ⟨1, 10⟩)
        ⟨some (.uuid 3), "spam"⟩),
      .group (.createPublicGroup (.deny "too many") 9 (some ⟨1, 10⟩)
        ⟨"more", "", "", ""⟩),
      .updateTavern (.deny "too often") (some ⟨1, 10⟩),
      .updateTavern (.deny "too often") (some ⟨2, 20⟩),
      .group (.createPublicGroup (.deny "too many") 9 (some ⟨2, 20⟩)
        ⟨"more", "", "", ""⟩)]).store.auditLog.map
        (fun row => (row.actorId, row.action, row.outcome)) =
      [(1, "ban_member", "flagged"), (1, "create_channel", "deny"),
        (1, "update_server", "deny")] := by
  decide

end ServerCall

end Accord

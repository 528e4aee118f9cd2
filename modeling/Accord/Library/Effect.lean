import Mathlib.Data.List.Forall2

/-! Computations that read and change a state and may fail.  A failure keeps
the changes made before it, as an early return from a handler does. -/

def Effect (State Error Value : Type) : Type :=
  State → Except Error Value × State

namespace Effect

variable {State Outer Error Value Next : Type}

protected def pure (value : Value) : Effect State Error Value :=
  fun state => (.ok value, state)

protected def bind (first : Effect State Error Value)
    (rest : Value → Effect State Error Next) : Effect State Error Next :=
  fun state =>
    match first state with
    | (.ok value, middle) => rest value middle
    | (.error error, middle) => (.error error, middle)

instance : Monad (Effect State Error) where
  pure := Effect.pure
  bind := Effect.bind

def fail (error : Error) : Effect State Error Value :=
  fun state => (.error error, state)

def read (view : State → Value) : Effect State Error Value :=
  fun state => (.ok (view state), state)

def update (change : State → State) : Effect State Error Unit :=
  fun state => (.ok (), change state)

/-- Refuse with `error` unless the state passes the check. -/
def check (test : State → Bool) (error : Error) : Effect State Error Unit :=
  fun state => (if test state then .ok () else .error error, state)

/-- The value of an optional view, or the given failure. -/
def require (view : State → Option Value) (error : Error) :
    Effect State Error Value :=
  fun state =>
    match view state with
    | some value => (.ok value, state)
    | none => (.error error, state)

/-- The value of an option that does not depend on the state. -/
def ofOption (value : Option Value) (error : Error) :
    Effect State Error Value :=
  require (fun _ => value) error

/-- Run the body on every element in order, stopping at the first failure. -/
def forEach (body : Value → Effect State Error Unit) :
    List Value → Effect State Error Unit
  | [] => pure ()
  | value :: rest => do
      body value
      forEach body rest

def ofExcept (result : Except Error Value) : Effect State Error Value :=
  fun state => (result, state)

/-- Run a computation for its effect only, whether it succeeds or fails. -/
def attempt {Other : Type} (inner : Effect State Error Value) :
    Effect State Other Unit :=
  fun state => (.ok (), (inner state).2)

/-- The value of a computation that succeeds, and nothing if it fails. -/
def optional {Other : Type} (inner : Effect State Error Value) :
    Effect State Other (Option Value) :=
  fun state => (.ok (inner state).1.toOption, (inner state).2)

def mapError {Other : Type} (convert : Error → Other)
    (inner : Effect State Error Value) : Effect State Other Value :=
  fun state => ((inner state).1.mapError convert, (inner state).2)

def zoom (part : Outer → State) (replace : State → Outer → Outer)
    (inner : Effect State Error Value) : Effect Outer Error Value :=
  fun outer =>
    ((inner (part outer)).1, replace (inner (part outer)).2 outer)

/-- `post` holds of the result and the state in which a run from `state`
ends, whether it succeeds or fails. -/
def Post (effect : Effect State Error Value) (state : State)
    (post : Except Error Value → State → Prop) : Prop :=
  post (effect state).1 (effect state).2

/-- The computation never changes the state. -/
def ReadOnly (effect : Effect State Error Value) : Prop :=
  ∀ state, (effect state).2 = state

/-- The computation keeps an invariant, whether it succeeds or fails. -/
def Keeps (invariant : State → Prop) (effect : Effect State Error Value) :
    Prop :=
  ∀ state, invariant state → invariant (effect state).2

variable {effect : Effect State Error Value} {state : State}
  {post : Except Error Value → State → Prop}

theorem Post.imp {weaker : Except Error Value → State → Prop}
    (holds : effect.Post state post)
    (weaken : ∀ result after, post result after → weaker result after) :
    effect.Post state weaker :=
  weaken _ _ holds

theorem post_pure {value : Value} (holds : post (.ok value) state) :
    Effect.Post (pure value : Effect State Error Value) state post := holds

theorem post_mapError {Other : Type} {convert : Error → Other}
    {post : Except Other Value → State → Prop}
    (holds : effect.Post state fun result after =>
      post (result.mapError convert) after) :
    (effect.mapError convert).Post state post := holds

theorem post_update {change : State → State}
    {post : Except Error Unit → State → Prop}
    (holds : post (.ok ()) (change state)) :
    (update change).Post state post := holds

theorem bind_of_ok {value : Value} {after : State}
    (ran : effect state = (.ok value, after))
    (rest : Value → Effect State Error Next) :
    (effect >>= rest) state = rest value after := by
  change Effect.bind effect rest state = _
  unfold Effect.bind
  rw [ran]

theorem bind_of_error {error : Error} {after : State}
    (ran : effect state = (.error error, after))
    (rest : Value → Effect State Error Next) :
    (effect >>= rest) state = (.error error, after) := by
  change Effect.bind effect rest state = _
  unfold Effect.bind
  rw [ran]

theorem bind_ok {rest : Value → Effect State Error Next} {result : Next}
    (ran : ((effect >>= rest) state).1 = .ok result) :
    ∃ value after, effect state = (.ok value, after) ∧
      (rest value after).1 = .ok result := by
  rcases first : effect state with ⟨outcome, after⟩
  cases outcome with
  | ok value =>
      rw [bind_of_ok first] at ran
      exact ⟨value, after, rfl, ran⟩
  | error error =>
      rw [bind_of_error first] at ran
      cases ran

theorem bind_eq_ok {rest : Value → Effect State Error Next} {result : Next}
    {final : State} (ran : (effect >>= rest) state = (.ok result, final)) :
    ∃ value after, effect state = (.ok value, after) ∧
      rest value after = (.ok result, final) := by
  have returned : ((effect >>= rest) state).1 = .ok result := by rw [ran]
  obtain ⟨value, after, first, -⟩ := bind_ok returned
  rw [bind_of_ok first] at ran
  exact ⟨value, after, first, ran⟩

theorem ofExcept_bind_eq_ok {outcome : Except Error Value}
    {rest : Value → Effect State Error Next} {result : Next} {final : State}
    (ran : (ofExcept outcome >>= rest) state = (.ok result, final)) :
    ∃ value, outcome = .ok value ∧
      rest value state = (.ok result, final) := by
  obtain ⟨value, after, first, last⟩ := bind_eq_ok ran
  cases first
  exact ⟨value, rfl, last⟩

theorem update_bind (change : State → State)
    (rest : Unit → Effect State Error Next) (state : State) :
    (update change >>= rest) state = rest () (change state) := rfl

theorem mapError_eq_ok {Other : Type} {convert : Error → Other}
    {value : Value} {after : State}
    (ran : effect.mapError convert state = (.ok value, after)) :
    effect state = (.ok value, after) := by
  unfold mapError at ran
  rcases first : effect state with ⟨outcome, last⟩
  rw [first] at ran
  cases outcome with
  | ok returned =>
      cases ran
      rfl
  | error error => cases ran

def Succeeds (effect : Effect State Error Value) (state : State) : Prop :=
  ∃ value, (effect state).1 = .ok value

theorem succeeds_unit_iff {effect : Effect State Error Unit} :
    effect.Succeeds state ↔ (effect state).1 = .ok () :=
  ⟨fun ⟨_, passed⟩ => passed, fun passed => ⟨(), passed⟩⟩

theorem succeeds_pure (value : Value) (state : State) :
    (pure value : Effect State Error Value).Succeeds state :=
  ⟨value, rfl⟩

theorem succeeds_bind {rest : Value → Effect State Error Next} :
    Succeeds (effect >>= rest) state ↔
      ∃ value, (effect state).1 = .ok value ∧
        (rest value).Succeeds (effect state).2 := by
  rcases ran : effect state with ⟨result, after⟩
  cases result with
  | ok value =>
      unfold Succeeds
      rw [bind_of_ok ran]
      simp
  | error error =>
      unfold Succeeds
      rw [bind_of_error ran]
      simp

theorem succeeds_bind_of_ok {value : Value} {after : State}
    (ran : effect state = (.ok value, after))
    (rest : Value → Effect State Error Next) :
    Succeeds (effect >>= rest) state ↔ (rest value).Succeeds after := by
  unfold Succeeds
  rw [bind_of_ok ran]

theorem succeeds_bind_unit {effect : Effect State Error Unit}
    {rest : Unit → Effect State Error Next} :
    Succeeds (effect >>= rest) state ↔
      (effect state).1 = .ok () ∧ (rest ()).Succeeds (effect state).2 := by
  rw [succeeds_bind]
  exact ⟨fun ⟨_, passed⟩ => passed, fun passed => ⟨(), passed⟩⟩

theorem succeeds_check_bind {test : State → Bool} {error : Error}
    {rest : Unit → Effect State Error Next} :
    Succeeds (check test error >>= rest) state ↔
      test state = true ∧ (rest ()).Succeeds state := by
  have step : ((check test error) state).1 = .ok () ↔ test state = true := by
    simp only [check]
    cases test state with
    | false => simp
    | true => simp
  rw [succeeds_bind_unit, step]
  rfl

theorem succeeds_require_bind {view : State → Option Value} {error : Error}
    {rest : Value → Effect State Error Next} :
    Succeeds (require view error >>= rest) state ↔
      ∃ value, view state = some value ∧ (rest value).Succeeds state := by
  rw [succeeds_bind]
  cases viewed : view state with
  | none => simp [require, viewed]
  | some value => simp [require, viewed]

theorem succeeds_ofOption_bind {option : Option Value} {error : Error}
    {rest : Value → Effect State Error Next} :
    Succeeds (ofOption option error >>= rest) state ↔
      ∃ value, option = some value ∧ (rest value).Succeeds state :=
  succeeds_require_bind

theorem succeeds_update_bind {change : State → State}
    {rest : Unit → Effect State Error Next} :
    Succeeds (update change >>= rest) state ↔
      (rest ()).Succeeds (change state) := by
  rw [succeeds_bind_unit]
  exact and_iff_right rfl

theorem succeeds_update {change : State → State} :
    (update change : Effect State Error Unit).Succeeds state :=
  ⟨(), rfl⟩

theorem bind_pure_state (finish : Value → Next) (state : State) :
    (((effect >>= fun value => pure (finish value)) :
      Effect State Error Next) state).2 = (effect state).2 := by
  rcases ran : effect state with ⟨result, after⟩
  cases result with
  | ok value =>
      rw [bind_of_ok ran]
      rfl
  | error error => rw [bind_of_error ran]

theorem mapError_ok {Other : Type} {convert : Error → Other} {value : Value}
    (ran : (effect.mapError convert state).1 = .ok value) :
    (effect state).1 = .ok value := by
  unfold mapError at ran
  cases outcome : (effect state).1 with
  | ok other =>
      rw [outcome] at ran
      cases ran
      rfl
  | error error =>
      rw [outcome] at ran
      cases ran

instance : LawfulMonad (Effect State Error) :=
  LawfulMonad.mk' (Effect State Error)
    (by
      intro Value effect
      funext state
      change Effect.bind effect Effect.pure state = effect state
      simp only [Effect.bind]
      rcases effect state with ⟨result, after⟩
      cases result <;> rfl)
    (fun _ _ => rfl)
    (by
      intro First Second Third effect rest last
      funext state
      change Effect.bind (Effect.bind effect rest) last state =
        Effect.bind effect (fun value => Effect.bind (rest value) last) state
      simp only [Effect.bind]
      rcases effect state with ⟨result, after⟩
      cases result <;> rfl)

theorem check_of_true (test : State → Bool) {state : State}
    (passed : test state = true) (error : Error) :
    check test error state = (.ok (), state) := by
  unfold check
  rw [if_pos passed]

theorem check_of_false (test : State → Bool) {state : State}
    (failed : test state = false) (error : Error) :
    check test error state = (.error error, state) := by
  unfold check
  rw [failed]
  rfl

theorem check_bind (test : State → Bool) (error : Error)
    (rest : Unit → Effect State Error Next) (state : State) :
    (check test error >>= rest) state =
      if test state then rest () state else (.error error, state) := by
  cases passed : test state with
  | true => exact bind_of_ok (check_of_true test passed error) rest
  | false => exact bind_of_error (check_of_false test passed error) rest

theorem ofOption_bind_eq_ok {option : Option Value} {error : Error}
    {rest : Value → Effect State Error Next} {result : Next} {final : State}
    (ran : (ofOption option error >>= rest) state = (.ok result, final)) :
    ∃ value, option = some value ∧
      rest value state = (.ok result, final) := by
  obtain ⟨value, after, first, last⟩ := bind_eq_ok ran
  cases option with
  | none => cases first
  | some found =>
      change (Except.ok found, state) = (Except.ok value, after) at first
      cases first
      exact ⟨value, rfl, last⟩

theorem check_bind_eq_ok {test : State → Bool} {error : Error}
    {rest : Unit → Effect State Error Next} {result : Next} {final : State}
    (ran : (check test error >>= rest) state = (.ok result, final)) :
    test state = true ∧ rest () state = (.ok result, final) := by
  rw [check_bind] at ran
  split at ran
  · rename_i passed
    exact ⟨passed, ran⟩
  · cases ran

theorem read_of_eq {view : State → Value} {value : Value}
    (viewed : view state = value) :
    (read view : Effect State Error Value) state = (.ok value, state) := by
  rw [← viewed]
  rfl

theorem optional_of_ok {Other : Type} {value : Value} {after : State}
    (ran : effect state = (.ok value, after)) :
    (effect.optional : Effect State Other _) state =
      (.ok (some value), after) := by
  unfold optional
  rw [ran]
  rfl

theorem optional_of_error {Other : Type} {error : Error} {after : State}
    (ran : effect state = (.error error, after)) :
    (effect.optional : Effect State Other _) state = (.ok none, after) := by
  unfold optional
  rw [ran]
  rfl

/-- Sequencing: what the first part ends in is where the second one starts. -/
theorem post_bind {rest : Value → Effect State Error Next}
    {middle : Except Error Value → State → Prop}
    {post : Except Error Next → State → Prop}
    (first : effect.Post state middle)
    (failed : ∀ error after, middle (.error error) after →
      post (.error error) after)
    (continued : ∀ value after, middle (.ok value) after →
      (rest value).Post after post) :
    Effect.Post (effect >>= rest) state post := by
  unfold Post at first continued ⊢
  change post (Effect.bind effect rest state).1
    (Effect.bind effect rest state).2
  unfold Effect.bind
  rcases ran : effect state with ⟨result, after⟩
  rw [ran] at first
  cases result with
  | ok value => exact continued value after first
  | error error => exact failed error after first

theorem post_bind_of_ok {value : Value} {after : State}
    (ran : effect state = (.ok value, after))
    {rest : Value → Effect State Error Next}
    {post : Except Error Next → State → Prop}
    (continued : (rest value).Post after post) :
    Effect.Post (effect >>= rest) state post := by
  unfold Post at continued ⊢
  rw [bind_of_ok ran]
  exact continued

theorem ReadOnly.post_bind (readOnly : effect.ReadOnly)
    {rest : Value → Effect State Error Next}
    {post : Except Error Next → State → Prop}
    (failed : ∀ error, (effect state).1 = .error error →
      post (.error error) state)
    (continued : ∀ value, (effect state).1 = .ok value →
      (rest value).Post state post) :
    Effect.Post (effect >>= rest) state post := by
  have unchanged : effect.Post state fun result after =>
      (effect state).1 = result ∧ after = state :=
    ⟨rfl, readOnly state⟩
  refine Effect.post_bind unchanged ?_ ?_
  · rintro error after ⟨result, rfl⟩
    exact failed error result
  · rintro value after ⟨result, rfl⟩
    exact continued value result

theorem ReadOnly.post_self (readOnly : effect.ReadOnly)
    (holds : ∀ result, post result state) : effect.Post state post := by
  unfold Post
  rw [readOnly state]
  exact holds _

theorem post_update_bind {change : State → State}
    {rest : Unit → Effect State Error Next}
    {post : Except Error Next → State → Prop}
    (continued : (rest ()).Post (change state) post) :
    Effect.Post (update change >>= rest) state post := continued

theorem readOnly_pure (value : Value) :
    ReadOnly (pure value : Effect State Error Value) :=
  fun _ => rfl

theorem readOnly_read (view : State → Value) :
    (read view : Effect State Error Value).ReadOnly :=
  fun _ => rfl

theorem readOnly_check (test : State → Bool) (error : Error) :
    (check test error).ReadOnly :=
  fun _ => rfl

theorem readOnly_require (view : State → Option Value) (error : Error) :
    (require view error).ReadOnly := by
  intro state
  unfold require
  split <;> rfl

theorem readOnly_ofOption (value : Option Value) (error : Error) :
    (ofOption value error : Effect State Error Value).ReadOnly :=
  readOnly_require _ error

theorem readOnly_ofExcept (result : Except Error Value) :
    (ofExcept result : Effect State Error Value).ReadOnly :=
  fun _ => rfl

theorem ReadOnly.bind (readOnly : effect.ReadOnly)
    {rest : Value → Effect State Error Next}
    (restReadOnly : ∀ value, (rest value).ReadOnly) :
    ReadOnly (effect >>= rest) := by
  intro state
  have unchanged : Effect.Post (effect >>= rest) state
      fun _ after => after = state :=
    readOnly.post_bind (fun _ _ => rfl)
      (fun value _ => restReadOnly value state)
  exact unchanged

theorem ReadOnly.mapError {Other : Type} (readOnly : effect.ReadOnly)
    (convert : Error → Other) : (effect.mapError convert).ReadOnly :=
  readOnly

def Yields (effect : Effect State Error Value) (property : Value → Prop) :
    Prop :=
  ∀ state value, (effect state).1 = .ok value → property value

theorem Yields.bind {rest : Value → Effect State Error Next}
    {property : Next → Prop} (yields : ∀ value, (rest value).Yields property) :
    Yields (effect >>= rest) property := by
  intro state result ran
  obtain ⟨value, after, -, returned⟩ := bind_ok ran
  exact yields value after result returned

theorem yields_pure {value : Value} {property : Value → Prop}
    (holds : property value) :
    (pure value : Effect State Error Value).Yields property := by
  intro state result ran
  cases ran
  exact holds

def Raises (effect : Effect State Error Value) (property : Error → Prop) :
    Prop :=
  ∀ state error, (effect state).1 = .error error → property error

section Raises

variable {property : Error → Prop}

theorem raises_pure (value : Value) :
    (pure value : Effect State Error Value).Raises property := by
  rintro state error ⟨⟩

theorem raises_read (view : State → Value) :
    (read view : Effect State Error Value).Raises property := by
  rintro state error ⟨⟩

theorem raises_check {test : State → Bool} {error : Error}
    (holds : property error) : (check test error).Raises property := by
  intro state raised failed
  unfold check at failed
  split at failed
  · cases failed
  · cases failed
    exact holds

theorem raises_ofExcept {result : Except Error Value}
    (holds : ∀ error, result = .error error → property error) :
    (ofExcept result : Effect State Error Value).Raises property :=
  fun _ error failed => holds error failed

theorem Raises.bind (first : effect.Raises property)
    {rest : Value → Effect State Error Next}
    (then_ : ∀ value, (rest value).Raises property) :
    Raises (effect >>= rest) property := by
  intro state error failed
  rcases ran : effect state with ⟨result, after⟩
  cases result with
  | ok value =>
      rw [bind_of_ok ran] at failed
      exact then_ value after error failed
  | error other =>
      rw [bind_of_error ran] at failed
      cases failed
      apply first state
      rw [ran]

theorem Raises.mapError {Other : Type} {convert : Error → Other}
    {property : Other → Prop}
    (raises : effect.Raises fun error => property (convert error)) :
    (effect.mapError convert).Raises property := by
  intro state error failed
  simp only [Effect.mapError] at failed
  rcases ran : (effect state).1 with other | value
  · rw [ran] at failed
    cases failed
    exact raises state other ran
  · rw [ran] at failed
    cases failed

end Raises

theorem check_ok {test : State → Bool} {error : Error} {result : Unit}
    (passed : (check test error state).1 = .ok result) :
    test state = true := by
  unfold check at passed
  by_cases holds : test state = true
  · exact holds
  · simp [holds] at passed

theorem require_ok {view : State → Option Value} {error : Error}
    {value : Value}
    (found : (require view error state).1 = .ok value) :
    view state = some value := by
  unfold require at found
  split at found
  · rename_i present viewed
    cases found
    exact viewed
  · cases found

theorem ofOption_ok {option : Option Value} {error : Error} {value : Value}
    (found : (ofOption option error state).1 = .ok value) :
    option = some value :=
  require_ok found

section Keeps

variable {invariant : State → Prop}

theorem ReadOnly.keeps (readOnly : effect.ReadOnly) :
    effect.Keeps invariant := by
  intro state holds
  rw [readOnly state]
  exact holds

theorem keeps_update {change : State → State}
    (kept : ∀ state, invariant state → invariant (change state)) :
    (update change : Effect State Error Unit).Keeps invariant :=
  kept

theorem Keeps.bind (first : effect.Keeps invariant)
    {rest : Value → Effect State Error Next}
    (then_ : ∀ value, (rest value).Keeps invariant) :
    Keeps invariant (effect >>= rest) := by
  intro state holds
  have started : effect.Post state fun _ after => invariant after :=
    first state holds
  have finished : Effect.Post (effect >>= rest) state
      fun _ after => invariant after :=
    post_bind started (fun _ _ kept => kept)
      (fun value after kept => then_ value after kept)
  exact finished

theorem Keeps.post_bind (kept : effect.Keeps invariant)
    (holds : invariant state) {rest : Value → Effect State Error Next}
    {post : Except Error Next → State → Prop}
    (failed : ∀ error after, invariant after → post (.error error) after)
    (continued : ∀ value after, invariant after →
      (rest value).Post after post) :
    Effect.Post (effect >>= rest) state post := by
  have started : effect.Post state fun _ after => invariant after :=
    kept state holds
  exact Effect.post_bind started failed continued

theorem Keeps.mapError {Other : Type} (kept : effect.Keeps invariant)
    (convert : Error → Other) : (effect.mapError convert).Keeps invariant :=
  kept

theorem Keeps.attempt {Other : Type} (kept : effect.Keeps invariant) :
    (effect.attempt : Effect State Other Unit).Keeps invariant :=
  kept

theorem keeps_forEach {body : Value → Effect State Error Unit}
    (kept : ∀ value, (body value).Keeps invariant) (values : List Value) :
    (forEach body values).Keeps invariant := by
  induction values with
  | nil => exact fun _ holds => holds
  | cons value rest induction => exact (kept value).bind fun _ => induction

end Keeps

theorem post_forEach {body : Value → Effect State Error Unit}
    {invariant : State → Prop} {values : List Value}
    (kept : ∀ value ∈ values, ∀ before, invariant before →
      (body value).Post before fun _ after => invariant after)
    (initially : invariant state) :
    (forEach body values).Post state fun _ after => invariant after := by
  induction values generalizing state with
  | nil => exact initially
  | cons value rest induction =>
      refine post_bind (kept value (by simp) state initially)
        (fun _ _ holds => holds) (fun _ after holds => ?_)
      exact induction
        (fun other member => kept other (by simp [member])) holds

theorem readOnly_forEach {body : Value → Effect State Error Unit}
    (readOnly : ∀ value, (body value).ReadOnly) (values : List Value) :
    (forEach body values).ReadOnly := by
  induction values with
  | nil => exact readOnly_pure ()
  | cons value rest induction => exact (readOnly value).bind fun _ => induction

theorem forEach_ok_iff {body : Value → Effect State Error Unit}
    (readOnly : ∀ value, (body value).ReadOnly) (values : List Value)
    (state : State) :
    (forEach body values state).1 = .ok () ↔
      ∀ value ∈ values, (body value state).1 = .ok () := by
  induction values with
  | nil => simp [forEach, pure, Effect.pure]
  | cons value rest induction =>
      have unchanged : (body value state).2 = state := readOnly value state
      simp only [forEach, List.mem_cons, forall_eq_or_imp, ← induction]
      change (Effect.bind (body value) (fun _ => forEach body rest) state).1 =
        .ok () ↔ _
      unfold Effect.bind
      rcases ran : body value state with ⟨result, after⟩
      obtain rfl : after = state := by rw [← unchanged, ran]
      cases result with
      | ok _ => simp
      | error _ => simp

theorem forEach_singleton (body : Value → Effect State Error Unit)
    (value : Value) : forEach body [value] = body value := by
  funext state
  change Effect.bind (body value) (fun _ => pure ()) state = body value state
  simp only [Effect.bind]
  rcases body value state with ⟨result, after⟩
  cases result with
  | ok _ => rfl
  | error _ => rfl

/-- The condition holds of every element the loop reaches, in the state in
which its turn comes. -/
def Along (body : Value → Effect State Error Unit)
    (condition : Value → State → Prop) : List Value → State → Prop
  | [], _ => True
  | value :: rest, state =>
      condition value state ∧ ((body value state).1 = .ok () →
        Along body condition rest (body value state).2)

/-- What every body keeps under its condition is kept by a loop along which
the conditions hold. -/
theorem post_forEach_along {body : Value → Effect State Error Unit}
    {condition : Value → State → Prop} {invariant : State → Prop}
    {values : List Value}
    (kept : ∀ value before, invariant before → condition value before →
      (body value).Post before fun _ after => invariant after)
    (along : Along body condition values state)
    (initially : invariant state) :
    (forEach body values).Post state fun _ after => invariant after := by
  induction values generalizing state with
  | nil => exact initially
  | cons value rest induction =>
      have first : (body value).Post state fun result after =>
          invariant after ∧
            (result = .ok () → Along body condition rest after) :=
        ⟨kept value state initially along.1, along.2⟩
      refine post_bind first (fun _ _ holds => holds.1) ?_
      intro _ after holds
      exact induction (holds.2 rfl) holds.1

/-- Under an invariant, the body succeeds on the accepted elements alone, and
what they do to a part of the state is `act`; the others leave it alone. -/
structure Follows {View : Type} (invariant : State → Prop)
    (view : State → View) (accepted : Value → Bool)
    (act : View → Value → View)
    (body : Value → Effect State Error Unit) : Prop where
  kept : ∀ value, (body value).Keeps invariant
  passes : ∀ value state, invariant state →
    ((body value state).1 = .ok () ↔ accepted value = true)
  moves : ∀ value state, invariant state →
    view (body value state).2 =
      if accepted value then act (view state) value else view state

/-- A loop stops at the first element it does not accept and has done what
the elements before it do. -/
theorem Follows.forEach {View : Type} {invariant : State → Prop}
    {view : State → View} {accepted : Value → Bool}
    {act : View → Value → View} {body : Value → Effect State Error Unit}
    (follows : Follows invariant view accepted act body)
    (values : List Value) {state : State} (initially : invariant state) :
    ((forEach body values state).1 = .ok () ↔
        ∀ value ∈ values, accepted value = true) ∧
      view (forEach body values state).2 =
        (values.takeWhile accepted).foldl act (view state) := by
  induction values generalizing state with
  | nil => exact ⟨by simp [Effect.forEach, pure, Effect.pure], rfl⟩
  | cons value rest induction =>
      have kept : invariant (body value state).2 :=
        follows.kept value state initially
      have passes := follows.passes value state initially
      have moves := follows.moves value state initially
      rcases ran : body value state with ⟨result, after⟩
      rw [ran] at kept passes moves
      cases result with
      | ok _ =>
          have accepts : accepted value = true := passes.mp rfl
          obtain ⟨verdict, left⟩ := induction kept
          simp only [Effect.forEach, bind_of_ok ran, verdict, left, moves,
            accepts, List.mem_cons, forall_eq_or_imp, true_and, if_true,
            List.takeWhile_cons_of_pos, List.foldl_cons, and_self]
      | error error =>
          have refuses : accepted value = false := by
            rw [← Bool.not_eq_true, ← passes]
            simp
          simp only [Effect.forEach, bind_of_error ran, moves, refuses,
            List.mem_cons, forall_eq_or_imp, Bool.false_eq_true, false_and,
            reduceCtorEq, if_false, List.takeWhile_cons, List.foldl_nil,
            and_self]

theorem post_zoom {part : Outer → State} {replace : State → Outer → Outer}
    {outer : Outer} {inner : Effect State Error Value}
    {post : Except Error Value → Outer → Prop}
    (holds : inner.Post (part outer) fun result after =>
      post result (replace after outer)) :
    (zoom part replace inner).Post outer post := holds

theorem exists_mapM_ok_iff {Error Value Result : Type}
    {step : Value → Except Error Result} {good : Value → Result → Prop}
    {values : List Value} :
    (∃ results, values.mapM step = .ok results ∧
        List.Forall₂ good values results) ↔
      ∀ value ∈ values, ∃ result, step value = .ok result ∧
        good value result := by
  induction values with
  | nil => exact ⟨fun _ => nofun, fun _ => ⟨[], rfl, .nil⟩⟩
  | cons value rest induction =>
      rw [List.forall_mem_cons, ← induction, List.mapM_cons]
      constructor
      · rintro ⟨results, ran, all⟩
        cases first : step value with
        | error error =>
            rw [first] at ran
            cases ran
        | ok result =>
            cases later : rest.mapM step with
            | error error =>
                rw [first, later] at ran
                cases ran
            | ok tail =>
                rw [first, later] at ran
                cases ran
                cases all with
                | cons head all =>
                    exact ⟨⟨result, rfl, head⟩, ⟨tail, rfl, all⟩⟩
      · rintro ⟨⟨result, first, head⟩, ⟨tail, later, all⟩⟩
        refine ⟨result :: tail, ?_, .cons head all⟩
        rw [first, later]
        rfl

end Effect

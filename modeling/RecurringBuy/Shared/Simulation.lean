set_option autoImplicit false

namespace Simulation

section Obligations

variable {Item : Type} (answered : Item → List Item → Prop)

/-- Every item of a list is answered by what comes after it. -/
def EachThen : List Item → Prop
  | [] => True
  | item :: later => answered item later ∧ EachThen later

end Obligations

section Runs

variable {State Action Output : Type} (step : State → Action → State)

/-- What the actions of a run put out, each in the state it finds. -/
def collect (emit : State → Action → List Output) : State → List Action → List Output
  | _, [] => []
  | state, action :: rest => emit state action ++ collect emit (step state action) rest

/-- `holds` is true of every action of a run, in the state it finds. -/
def Always (holds : State → Action → Prop) : State → List Action → Prop
  | _, [] => True
  | state, action :: rest => holds state action ∧ Always holds (step state action) rest

theorem collect_append (emit : State → Action → List Output) (state : State) (first later : List Action) :
    collect step emit state (first ++ later) =
      collect step emit state first ++ collect step emit (first.foldl step state) later := by
  induction first generalizing state with
  | nil => rfl
  | cons action rest ih => rw [List.cons_append, collect, collect, ih, List.append_assoc, List.foldl_cons]

theorem always_append (holds : State → Action → Prop) (state : State) (first later : List Action) :
    Always step holds state (first ++ later) ↔
      Always step holds state first ∧ Always step holds (first.foldl step state) later := by
  induction first generalizing state with
  | nil => simp [Always]
  | cons action rest ih => rw [List.cons_append, Always, Always, ih, List.foldl_cons, and_assoc]

theorem always_all (holds : State → Action → Prop) (all : ∀ state action, holds state action) (state : State)
    (actions : List Action) : Always step holds state actions := by
  induction actions generalizing state with
  | nil => trivial
  | cons action rest ih => exact ⟨all state action, ih (step state action)⟩

theorem always_invariant (inv : State → Prop) (holds : State → Action → Prop)
    (kept : ∀ state action, inv state → holds state action → inv (step state action)) (state : State)
    (actions : List Action) (always : Always step holds state actions) (start : inv state) :
    inv (actions.foldl step state) := by
  induction actions generalizing state with
  | nil => exact start
  | cons action rest ih => exact ih (step state action) always.2 (kept state action start always.1)

theorem collect_flatMap (emit : Action → List Output) (state : State) (actions : List Action) :
    collect step (fun _ => emit) state actions = actions.flatMap emit := by
  induction actions generalizing state with
  | nil => rfl
  | cons action rest ih => rw [collect, ih, List.flatMap_cons]

/-- What holds across each action, and adds up over what the actions put out, holds across the run. -/
theorem collect_across (emit : State → Action → List Output) (across : State → List Output → State → Prop)
    (nothing : ∀ state, across state [] state)
    (append : ∀ state middle state' first later, across state first middle → across middle later state' →
      across state (first ++ later) state')
    (inv : State → Prop) (holds : State → Action → Prop)
    (each : ∀ state action, inv state → holds state action →
      across state (emit state action) (step state action) ∧ inv (step state action))
    (state : State) (actions : List Action) (always : Always step holds state actions) (start : inv state) :
    across state (collect step emit state actions) (actions.foldl step state) := by
  induction actions generalizing state with
  | nil => exact nothing state
  | cons action rest ih =>
    obtain ⟨here, kept⟩ := each state action start always.1
    exact append _ _ _ _ _ here (ih (step state action) always.2 kept)

-- What a run puts out takes the machine of `next` where the run takes its state.
theorem collect_replays {Spec : Type} (emit : State → Action → List Output) (next : Spec → Output → Option Spec)
    (view : State → Spec)
    (here : ∀ state action, (emit state action).foldlM next (view state) = some (view (step state action)))
    (state : State) (actions : List Action) :
    (collect step emit state actions).foldlM next (view state) = some (view (actions.foldl step state)) := by
  induction actions generalizing state with
  | nil => rfl
  | cons action rest ih =>
    rw [collect, List.foldlM_append, here state action, Option.bind_eq_bind, Option.bind_some, ih, List.foldl_cons]

theorem run_filter {View : Type} (view : State → View) (visible : Action → Bool) (inv : State → Prop)
    (holds : State → Action → Prop) (kept : ∀ state action, inv state → holds state action → inv (step state action))
    (hidden : ∀ state action, inv state → holds state action → visible action = false →
      view (step state action) = view state)
    (local' : ∀ state state' action, visible action = true → view state = view state' →
      view (step state action) = view (step state' action))
    (state state' : State) (same : view state = view state') (start : inv state) (actions : List Action)
    (always : Always step holds state actions) :
    view (actions.foldl step state) = view ((actions.filter visible).foldl step state') := by
  induction actions generalizing state state' with
  | nil => exact same
  | cons action rest ih =>
    have next (other : State) (same : view (step state action) = view other) :=
      ih (step state action) other same (kept state action start always.1) always.2
    cases seen : visible action with
    | false =>
      rw [List.filter_cons_of_neg (by simp [seen]), List.foldl_cons]
      exact next state' ((hidden state action start always.1 seen).trans same)
    | true =>
      rw [List.filter_cons_of_pos seen, List.foldl_cons, List.foldl_cons]
      exact next (step state' action) (local' state state' action seen same)

theorem always_mono (holds weaker : State → Action → Prop)
    (implies : ∀ state action, holds state action → weaker state action)
    (state : State) (actions : List Action) (always : Always step holds state actions) :
    Always step weaker state actions := by
  induction actions generalizing state with
  | nil => trivial
  | cons action rest ih => exact ⟨implies state action always.1, ih (step state action) always.2⟩

theorem always_and (first second : State → Action → Prop) (state : State) (actions : List Action) :
    Always step (fun state action => first state action ∧ second state action) state actions ↔
      Always step first state actions ∧ Always step second state actions := by
  induction actions generalizing state with
  | nil => simp [Always]
  | cons action rest ih =>
    rw [Always, Always, Always, ih]
    exact and_and_and_comm

theorem always_mem (holds : Action → Prop) (state : State) (actions : List Action)
    (all : ∀ action ∈ actions, holds action) : Always step (fun _ => holds) state actions := by
  induction actions generalizing state with
  | nil => trivial
  | cons action rest ih =>
    exact ⟨all action List.mem_cons_self, ih _ fun other member => all other (List.mem_cons_of_mem _ member)⟩

theorem always_kept (inv : State → Prop) (holds every : State → Action → Prop)
    (each : ∀ state action, inv state → holds state action → every state action ∧ inv (step state action))
    (state : State) (actions : List Action) (always : Always step holds state actions) (start : inv state) :
    Always step every state actions := by
  induction actions generalizing state with
  | nil => trivial
  | cons action rest ih =>
    obtain ⟨here, kept⟩ := each state action start always.1
    exact ⟨here, ih (step state action) always.2 kept⟩

end Runs

section Views

variable {State Action Base Event Output : Type} (step : State → Action → State)
  (seen : State → Action → List Event) (base : Base → Event → Base) (view : State → Base)
  (sound : ∀ state action, view (step state action) = (seen state action).foldl base (view state))

include sound

theorem collect_view (state : State) (actions : List Action) :
    view (actions.foldl step state) = (collect step seen state actions).foldl base (view state) := by
  induction actions generalizing state with
  | nil => rfl
  | cons action rest ih => rw [List.foldl_cons, ih, collect, List.foldl_append, sound]

theorem collect_collect (emit : State → Action → List Output) (told : Base → Event → List Output)
    (same : ∀ state action, collect base told (view state) (seen state action) = emit state action)
    (state : State) (actions : List Action) :
    collect base told (view state) (collect step seen state actions) = collect step emit state actions := by
  induction actions generalizing state with
  | nil => rfl
  | cons action rest ih => rw [collect, collect_append, collect, same, ← sound, ih]

theorem always_collect (met : State → Action → Prop) (holds : Base → Event → Prop)
    (each : ∀ state action, met state action → Always base holds (view state) (seen state action))
    (state : State) (actions : List Action) (always : Always step met state actions) :
    Always base holds (view state) (collect step seen state actions) := by
  induction actions generalizing state with
  | nil => trivial
  | cons action rest ih =>
    rw [collect, always_append, ← sound]
    exact ⟨each state action always.1, ih _ always.2⟩

end Views

end Simulation

import PodPlacement.Proofs.Ordered
import PodPlacement.Proofs.SessionCalls

/-! # Runs of a session — what they keep

    `Frame` says what a step leaves alone, once for all steps (`frame_step`):

    * what it makes of the orchestrator, it makes of it in every session
      (`lister_step`);
    * a token once cancelled stays cancelled, through any run
      (`cancelled_run`);
    * choosers that it neither calls nor names stay as they are
      (`chooser?_step_of_not_called`).

    The chooser of a name is then found by every call as the call before left
    it, until another chooser takes the name: `step_callChain` for one step,
    `run_callChain` by induction for a run. -/

namespace PodPlacement

/-- The name that a step gives to a chooser. -/
def Step.named? {σ : Type} : Step σ → Option String
  | .newRandom name .. => some name
  | .newSticky name .. => some name
  | .cloneSticky _ copy _ => some copy
  | .build name .. => some name
  | _ => none

/-- A step asks the orchestrator and changes nothing about it. -/
def Step.isCall {σ : Type} : Step σ → Bool
  | .discover .. => true
  | .choose .. => true
  | .chooseTimes .. => true
  | .chooseKeys .. => true
  | _ => false

/-- What a step makes of the orchestrator. -/
def Step.relist {σ : Type} (lister : Lister) : Step σ → Lister
  | .setPods pods => { lister with pods }
  | .setFailure message => { lister with failure := message }
  | .setDelay delay => { lister with delay }
  | _ => lister

theorem Step.relist_of_isCall {σ : Type} {s : Step σ} (h : s.isCall = true) (lister : Lister) :
    s.relist lister = lister := by
  cases s with
  | setPods _ => exact nomatch h
  | setFailure _ => exact nomatch h
  | setDelay _ => exact nomatch h
  | _ => rfl

namespace Session

variable {σ : Type} [Executor] [SeededSource σ] (hash : String → UInt64)

/-! ## What a step leaves alone -/

section Frame

omit [Executor] [SeededSource σ]

theorem chooser?_putChooser (session : Session σ) (name other : String) (chooser : Chooser σ) :
    (session.putChooser name chooser).chooser? other
      = if other = name then some chooser else session.chooser? other :=
  Ordered.find?_replaced session.choosers name other chooser

/-- The session after a part of a step: of the choosers only one that the step calls or names is
another, and no token is forgotten. -/
structure Frame (s : Step σ) (before after : Session σ) : Prop where
  lister : after.lister = before.lister
  cancelled : ∀ token ∈ before.cancelled, token ∈ after.cancelled
  choosers : ∀ name, s.called? ≠ some name → s.named? ≠ some name →
    after.chooser? name = before.chooser? name

namespace Frame

variable {s : Step σ} {before middle after : Session σ}

theorem refl (s : Step σ) (session : Session σ) : Frame s session session :=
  ⟨rfl, fun _ h => h, fun _ _ _ => rfl⟩

theorem trans (h : Frame s before middle) (h' : Frame s middle after) : Frame s before after where
  lister := h'.lister.trans h.lister
  cancelled := fun token htoken => h'.cancelled token (h.cancelled token htoken)
  choosers := fun name hcalled hnamed =>
    (h'.choosers name hcalled hnamed).trans (h.choosers name hcalled hnamed)

/-- A step that calls or names a chooser may put another in its place. -/
theorem putChooser {name : String} (hs : s.called? = some name ∨ s.named? = some name)
    (session : Session σ) (chooser : Chooser σ) :
    Frame s session (session.putChooser name chooser) where
  lister := rfl
  cancelled := fun _ h => h
  choosers := by
    intro other hcalled hnamed
    rw [chooser?_putChooser, if_neg]
    rintro rfl
    rcases hs with hs | hs
    · exact hcalled hs
    · exact hnamed hs

/-- A call that ends may leave its token cancelled. -/
theorem settle (s : Step σ) (session : Session σ) (terms : CallTerms) (givenUp : Bool) :
    Frame s session (session.settle terms givenUp) := by
  rw [Session.settle]
  cases terms.token with
  | none => exact refl s session
  | some token =>
      cases givenUp with
      | false => exact refl s session
      | true => exact ⟨rfl, fun _ h => List.mem_cons_of_mem _ h, fun _ _ _ => rfl⟩

/-- The ambient source is no part of the frame. -/
theorem ambient (h : Frame s before after) (source : σ) :
    Frame s before { after with ambient := source } :=
  ⟨h.lister, h.cancelled, h.choosers⟩

end Frame

theorem chooser?_settle (session : Session σ) (terms : CallTerms) (givenUp : Bool)
    (name : String) : (session.settle terms givenUp).chooser? name = session.chooser? name :=
  -- Seen from a step that neither calls nor names a chooser.
  (Frame.settle (.cancel name) session terms givenUp).choosers name
    (Option.some_ne_none name).symm (Option.some_ne_none name).symm

end Frame

/-- **STEP**: apart from what it makes of the orchestrator, a step stays within its frame. -/
theorem frame_step (session : Session σ) (s : Step σ) :
    Frame s { session with lister := s.relist session.lister } (session.step hash s).2 := by
  cases s with
  | cancel token => exact ⟨rfl, fun _ h => List.mem_cons_of_mem _ h, fun _ _ _ => rfl⟩
  | newRandom name source limit => exact .putChooser (Or.inr rfl) session _
  | newSticky name key points limit => exact .putChooser (Or.inr rfl) session _
  | cloneSticky name copy points =>
      rw [step]
      split
      · exact .putChooser (Or.inr rfl) session _
      · exact .refl _ session
  | build name config key =>
      rw [step]
      split
      · exact .putChooser (Or.inr rfl) session _
      · exact .refl _ session
  | inspect name =>
      rw [step]
      split
      · exact .refl _ session
      · exact .refl _ session
  | discover limit terms => exact .settle _ session terms _
  | choose name terms =>
      rw [step]
      cases session.chooser? name with
      | none => exact .refl _ session
      | some chooser =>
          exact (Frame.trans (.putChooser (Or.inl rfl) session _) (.settle _ _ terms _)).ambient _
  | chooseTimes name times =>
      rw [step]
      cases session.chooser? name with
      | none => exact .refl _ session
      | some chooser =>
          exact Frame.ambient (.putChooser (Or.inl rfl) session _) _
  | _ => exact ⟨rfl, fun _ h => h, fun _ _ _ => rfl⟩

/-- A step that neither calls under a name nor gives it away leaves its chooser alone. -/
theorem chooser?_step_of_not_called {session : Session σ} {s : Step σ} {name : String}
    (hs : s.called? ≠ some name) (hnamed : s.named? ≠ some name) :
    (session.step hash s).2.chooser? name = session.chooser? name :=
  (frame_step hash session s).choosers name hs hnamed

/-- Every session has the same step do the same to its orchestrator. -/
theorem lister_step (session : Session σ) (s : Step σ) :
    (session.step hash s).2.lister = s.relist session.lister :=
  (frame_step hash session s).lister

/-- **RUN**: a token once cancelled stays cancelled. -/
theorem cancelled_run {session : Session σ} {token : String} (steps : List (Step σ))
    (h : token ∈ session.cancelled) : token ∈ (session.run hash steps).2.cancelled := by
  induction steps generalizing session with
  | nil => exact h
  | cons s steps ih => exact ih ((frame_step hash session s).cancelled token h)

/-! ## What a chooser's calls find -/

/-- The calls of a series find the chooser one after another. -/
theorem series_chain (lister : Lister) (caller : Option String) (n : Nat) (chooser : Chooser σ)
    (ambient : σ) :
    ChoiceCall.Chain hash chooser (seriesCalls hash lister caller n chooser ambient)
      (series hash lister n chooser ambient).2 := by
  induction n generalizing chooser ambient with
  | zero => exact .nil chooser
  | succ n ih =>
      obtain ⟨selection, h⟩ | hstopped :=
        ((ChoiceCall.free lister caller chooser ambient).report hash).choice.selects_or_not
      · obtain ⟨hcalls, hseries⟩ := series_of_selected hash lister caller n chooser ambient h
        rw [hcalls, hseries]
        exact .cons (.free lister caller chooser ambient) (ih _ _)
      · obtain ⟨hcalls, hseries⟩ := series_of_stopped hash lister caller n chooser ambient hstopped
        rw [hcalls, hseries]
        exact .cons (.free lister caller chooser ambient) (.nil _)

/-- A step that does not call under a name makes no call on its chooser. -/
theorem on_stepCalls_of_not_called {session : Session σ} {s : Step σ} {name : String}
    (hs : s.called? ≠ some name) : ChoiceCall.on name (session.stepCalls hash s) = [] := by
  cases s with
  | choose other terms =>
      rw [stepCalls]
      cases session.chooser? other with
      | none => rfl
      | some found =>
          refine ChoiceCall.on_eq_nil fun call hcall => ?_
          rw [List.mem_singleton.1 hcall]
          exact hs
  | chooseTimes other times =>
      rw [stepCalls]
      cases session.chooser? other with
      | none => rfl
      | some found =>
          refine ChoiceCall.on_eq_nil fun call hcall => ?_
          rw [caller_of_mem_seriesCalls hash hcall]
          exact hs
  | chooseKeys keys points =>
      refine ChoiceCall.on_eq_nil fun call hcall => ?_
      rw [caller_of_mem_keyCalls hash hcall]
      exact (Option.some_ne_none name).symm
  | _ => rfl

/-- A choice leaves its chooser as its call does. -/
theorem chooser?_step_choose {session : Session σ} {name : String} {chooser : Chooser σ}
    (terms : CallTerms) (h : session.chooser? name = some chooser) :
    (session.step hash (.choose name terms)).2.chooser? name
      = some (chooser.choosePod hash session.lister (session.cancellation terms)
          session.ambient).chooser := by
  rw [step]
  simp only [h]
  refine (chooser?_settle (session.putChooser name _) terms _ name).trans ?_
  exact (chooser?_putChooser session name name _).trans (if_pos rfl)

/-- Choices one after another leave their chooser as their series does. -/
theorem chooser?_step_chooseTimes {session : Session σ} {name : String} {chooser : Chooser σ}
    (times : Nat) (h : session.chooser? name = some chooser) :
    (session.step hash (.chooseTimes name times)).2.chooser? name
      = some (series hash session.lister times chooser session.ambient).2 := by
  rw [step]
  simp only [h]
  exact (chooser?_putChooser session name name _).trans (if_pos rfl)

/-- **STEP**: unless a step gives the name to another chooser, its calls find the chooser of the
name one after another, the first as the session has it, and leave it to the session. -/
theorem step_callChain {session : Session σ} {s : Step σ} {name : String} {chooser : Chooser σ}
    (h : session.chooser? name = some chooser) (hs : s.named? ≠ some name) :
    ∃ last, ChoiceCall.Chain hash chooser (ChoiceCall.on name (session.stepCalls hash s)) last
      ∧ (session.step hash s).2.chooser? name = some last := by
  -- Two kinds of steps call by name; all others leave the chooser of the name alone.
  by_cases hcalled : s.called? = some name
  · cases s with
    | choose other terms =>
        obtain rfl := Option.some.inj hcalled
        let call : ChoiceCall σ :=
          ⟨some other, chooser, session.lister, session.cancellation terms, session.ambient⟩
        refine ⟨(call.report hash).chooser, ?_, chooser?_step_choose hash terms h⟩
        rw [stepCalls, h]
        rw [ChoiceCall.on_eq_self fun call hcall => by rw [List.mem_singleton.1 hcall]]
        exact .cons call (.nil _)
    | chooseTimes other times =>
        obtain rfl := Option.some.inj hcalled
        refine ⟨(series hash session.lister times chooser session.ambient).2, ?_,
          chooser?_step_chooseTimes hash times h⟩
        rw [stepCalls, h]
        rw [ChoiceCall.on_eq_self fun call hcall => caller_of_mem_seriesCalls hash hcall]
        exact series_chain hash session.lister (some other) times chooser session.ambient
    | _ => cases hcalled
  · refine ⟨chooser, ?_, (chooser?_step_of_not_called hash hcalled hs).trans h⟩
    rw [on_stepCalls_of_not_called hash hcalled]
    exact .nil chooser

/-- **RUN**: while no other chooser takes its name, a chooser is found by each of its calls as the
call before left it. -/
theorem run_callChain {session : Session σ} {steps : List (Step σ)} {name : String}
    {chooser : Chooser σ} (h : session.chooser? name = some chooser)
    (hsteps : ∀ s ∈ steps, s.named? ≠ some name) :
    ∃ last,
      ChoiceCall.Chain hash chooser (ChoiceCall.on name (session.choiceCalls hash steps)) last
        ∧ (session.run hash steps).2.chooser? name = some last := by
  induction steps generalizing session chooser with
  | nil => exact ⟨chooser, .nil _, h⟩
  | cons s steps ih =>
      -- The rest of the run finds the chooser as the first step leaves it.
      obtain ⟨middle, hstep, hmiddle⟩ := step_callChain hash h (hsteps s (List.mem_cons_self ..))
      obtain ⟨last, hrun, hlast⟩ :=
        ih hmiddle fun s' hs' => hsteps s' (List.mem_cons_of_mem _ hs')
      refine ⟨last, ?_, hlast⟩
      rw [choiceCalls, ChoiceCall.on_append]
      exact hstep.append hash hrun

end Session

end PodPlacement

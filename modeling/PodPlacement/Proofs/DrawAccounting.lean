import PodPlacement.Proofs.ListingRace

/-! # Draw accounting — what a random chooser asks its source for

    A chooser with a source of its own draws once in every call that is offered
    pods, with their number, and never otherwise.  `Accounts` is the account of
    its calls from one state of the source to another: a call that is offered
    nothing passes and fails, a draw picks a pod, and a draw that fails costs
    that draw and that call alone.

    What one call does to the source (`chooser_of_own`, `choice_of_own`) gives
    the account of all calls that find the chooser one after another
    (`Chain.accounts`).  Since neither tells of the ambient source, two sessions
    that differ in it and in the choosers of other names cannot be told apart by
    the calls on this one (`step_same`, `step_alike`), and calls that are offered
    nothing can be left out of a run (`skip_alike`, `run_thinned`).

    Main statement: `draws_are_accounted`. -/

namespace PodPlacement

/-- A source that has been asked with these lengths, in order. -/
def DrawSource.asked {σ : Type} [DrawSource σ] (source : σ) (lens : List Nat) : σ :=
  lens.foldl (fun source len => (DrawSource.draw source len).2) source

/-- A script records exactly what it is asked. -/
theorem AnySource.lens_asked (script : Script) (lens : List Nat) :
    (DrawSource.asked (AnySource.scripted script) lens).lens = script.lens ++ lens := by
  induction lens generalizing script with
  | nil => exact (List.append_nil _).symm
  | cons len rest ih =>
      show (DrawSource.asked (AnySource.scripted (script.draw len).2) rest).lens = _
      rw [ih, Script.lens_draw, List.append_assoc]
      rfl

/-! ## One call of a chooser with a source of its own -/

namespace ChoiceCall

variable {σ : Type} [Executor]

/-- The pods that a call can pick from: none where its discovery finds none. -/
def offered (call : ChoiceCall σ) : List Pod := call.discovery.found

theorem outcome_of_offered {call : ChoiceCall σ} (h : call.offered ≠ []) :
    call.discovery.outcome = some (.ok call.offered) :=
  Discovery.outcome_of_found h

/-- What is offered is the view of the snapshot that the call meets. -/
theorem sortedView_offered {call : ChoiceCall σ} (h : call.offered ≠ []) :
    SortedView call.lister.pods call.chooser.group call.offered :=
  sortedView_of_outcome (outcome_of_offered h)

theorem offered_of_outcome {call : ChoiceCall σ} {pods : List Pod}
    (h : call.discovery.outcome = some (.ok pods)) : call.offered = pods :=
  Discovery.found_of_outcome h

/-- A call is offered nothing exactly if its discovery finds no pods. -/
theorem offered_eq_nil_iff {call : ChoiceCall σ} :
    call.offered = [] ↔ ∀ pods, call.discovery.outcome = some (.ok pods) → pods = [] := by
  constructor
  · intro h pods houtcome
    exact (offered_of_outcome houtcome).symm.trans h
  · intro h
    by_cases hoffered : call.offered = []
    · exact hoffered
    · exact h _ (outcome_of_offered hoffered)

/-- A lister that fails offers nothing. -/
theorem offered_of_failure {call : ChoiceCall σ} {message : String}
    (h : call.lister.failure = some message) : call.offered = [] := by
  by_cases hoffered : call.offered = []
  · exact hoffered
  · obtain ⟨hnone, _⟩ := pods_of_outcome (outcome_of_offered hoffered)
    exact nomatch h.symm.trans hnone

variable [DrawSource σ] (hash : String → UInt64)

/-- What comes of a call comes of its discovery. -/
theorem comesOf_report (call : ChoiceCall σ) :
    Choice.ComesOf call.chooser.group call.discovery.outcome (call.report hash).choice :=
  Chooser.comesOf_choosePod hash call.chooser call.lister call.cancellation call.ambient

/-- A call comes to what the race for its listing can come to. -/
theorem discovers_report (call : ChoiceCall σ) :
    Discovers call.lister call.chooser.group call.chooser.limit call.cancellation
      call.discovery.outcome (call.report hash).calls := by
  rw [(follows_report hash call).calls]
  exact discovers_discover _ _ _ _

/-- A source is left as a random pick from the pods offered leaves it, behind a lock that is
poisoned if the pick fails. -/
theorem chooser_of_own {call : ChoiceCall σ} {lock : Lock σ}
    (own : call.chooser.guarded = .random (some lock)) :
    let report := Pick.random call.offered lock.content
    (call.report hash).chooser
      = { call.chooser with
          guarded := .random (some (lock.giveBack report.source report.pick.panicked)) } :=
  Chooser.chooser_of_own own

/-- A call that is offered pods comes to a random pick from them. -/
theorem choice_of_own {call : ChoiceCall σ} {lock : Lock σ}
    (own : call.chooser.guarded = .random (some lock)) (h : call.offered ≠ []) :
    (call.report hash).choice
      = .ofPick call.chooser.group (Pick.random call.offered lock.content).pick :=
  Chooser.choice_of_own own h

/-! ## The account of all calls -/

/-- The account of calls on one chooser, between two states of the lock of its source. -/
inductive Accounts : Lock σ → List (ChoiceCall σ) → Lock σ → Prop where
  | nil (lock : Lock σ) : Accounts lock [] lock
  /-- Nothing is offered, and nothing drawn. -/
  | passes {lock last : Lock σ} {call : ChoiceCall σ} {rest : List (ChoiceCall σ)}
      (own : call.chooser.guarded = .random (some lock))
      (idle : ∀ pods, call.discovery.outcome = some (.ok pods) → pods = [])
      (fails : Choice.ComesOf call.chooser.group call.discovery.outcome (call.report hash).choice)
      (after : Accounts lock rest last) : Accounts lock (call :: rest) last
  /-- One number is drawn, and chooses the pod at its place in name order, wrapped around. -/
  | draws {lock last : Lock σ} {next : σ} {call : ChoiceCall σ} {rest : List (ChoiceCall σ)}
      {pods : List Pod} (n : Nat) (own : call.chooser.guarded = .random (some lock))
      (found : call.discovery.outcome = some (.ok pods))
      (view : SortedView call.lister.pods call.chooser.group pods) (offers : 0 < pods.length)
      (drawn : DrawSource.draw lock.content pods.length = (some n, next))
      (picks : (call.report hash).choice
        = .selected ⟨pods.get ⟨n % pods.length, Nat.mod_lt n offers⟩,
            pods.eraseIdx (n % pods.length), .random⟩)
      (after : Accounts ⟨next, lock.poisoned⟩ rest last) : Accounts lock (call :: rest) last
  /-- The draw fails and poisons the lock; the next call goes on behind it. -/
  | panics {lock last : Lock σ} {next : σ} {call : ChoiceCall σ} {rest : List (ChoiceCall σ)}
      {pods : List Pod} (own : call.chooser.guarded = .random (some lock))
      (found : call.discovery.outcome = some (.ok pods))
      (view : SortedView call.lister.pods call.chooser.group pods) (offers : 0 < pods.length)
      (drawn : DrawSource.draw lock.content pods.length = (none, next))
      (fails : (call.report hash).choice = .drawFailed)
      (after : Accounts ⟨next, true⟩ rest last) : Accounts lock (call :: rest) last

/-- **STEP**: whatever one call comes to is an item of the account. -/
theorem Accounts.cons {call : ChoiceCall σ} {rest : List (ChoiceCall σ)} {lock last : Lock σ}
    (own : call.chooser.guarded = .random (some lock))
    (after : Accounts hash (lock.giveBack (Pick.random call.offered lock.content).source
      (Pick.random call.offered lock.content).pick.panicked) rest last) :
    Accounts hash lock (call :: rest) last := by
  -- Only a draw can poison the lock, and only a call that is offered pods draws.
  by_cases h : call.offered = []
  · have hlock : lock.giveBack lock.content Pick.emptySet.panicked = lock := lock.giveBack_content
    rw [h, Pick.random_nil, hlock] at after
    exact .passes own (offered_eq_nil_iff.1 h) (comesOf_report hash call) after
  · have hchoice := choice_of_own hash own h
    have hrandom := Pick.randomly_random call.offered lock.content
    generalize Pick.random call.offered lock.content = report at after hchoice hrandom
    cases hrandom with
    | empty none => exact absurd none h
    | failed offers fails =>
        have hpoisoned : (lock.poisoned || true) = true := Bool.or_true _
        rw [Lock.giveBack, Pick.panicked, hpoisoned] at after
        exact .panics own (outcome_of_offered h) (sortedView_offered h) offers fails hchoice after
    | @drawn _ n offers draws =>
        have hpoisoned : (lock.poisoned || false) = lock.poisoned := Bool.or_false _
        rw [Lock.giveBack, Pick.panicked.eq_def, hpoisoned] at after
        exact .draws n own (outcome_of_offered h) (sortedView_offered h) offers draws hchoice after

/-- **RUN**: calls that find a chooser one after another are accounted for. -/
theorem Chain.accounts {first last : Chooser σ} {calls : List (ChoiceCall σ)}
    (h : Chain hash first calls last) {lock : Lock σ}
    (own : first.guarded = .random (some lock)) :
    ∃ next, Accounts hash lock calls next
      ∧ last = { first with guarded := .random (some next) } := by
  induction h generalizing lock with
  | nil chooser =>
      refine ⟨lock, .nil lock, ?_⟩
      rw [← own]
  | cons call _ ih =>
      have hchooser := chooser_of_own hash own
      rw [hchooser] at ih
      obtain ⟨next, haccounts, hlast⟩ := ih rfl
      exact ⟨next, .cons hash own haccounts, hlast⟩

namespace Accounts

variable {hash} {lock last : Lock σ} {calls : List (ChoiceCall σ)}

/-- Calls that are offered nothing leave the lock as it was. -/
theorem eq_of_idle (h : Accounts hash lock calls last)
    (idle : ∀ call ∈ calls, call.offered = []) : last = lock := by
  induction h with
  | nil lock => rfl
  | passes _ _ _ _ ih => exact ih fun call hcall => idle call (List.mem_cons_of_mem _ hcall)
  | draws _ _ found _ offers _ _ _ _ =>
      have hnone := offered_eq_nil_iff.1 (idle _ (List.mem_cons_self ..)) _ found
      exact absurd hnone (List.ne_nil_of_length_pos offers)
  | panics _ found _ offers _ _ _ _ =>
      have hnone := offered_eq_nil_iff.1 (idle _ (List.mem_cons_self ..)) _ found
      exact absurd hnone (List.ne_nil_of_length_pos offers)

/-- The lock is poisoned in the end exactly if it was so before or a draw failed. -/
theorem poisoned_iff (h : Accounts hash lock calls last) :
    last.poisoned = true
      ↔ lock.poisoned = true ∨ ∃ call ∈ calls, (call.report hash).choice = .drawFailed := by
  induction h with
  | nil lock => simp
  | @passes _ _ call _ _ idle comes _ ih =>
      have hchoice : (call.report hash).choice ≠ .drawFailed := by
        intro hfailed
        rw [hfailed] at comes
        generalize call.discovery.outcome = outcome at idle comes
        cases comes with
        | drawFails offers => exact offers (idle _ rfl)
      rw [ih, List.exists_mem_cons_iff]
      simp only [hchoice, false_or]
  | draws _ _ _ _ _ _ picks _ ih =>
      rw [ih, List.exists_mem_cons_iff, picks]
      simp only [reduceCtorEq, false_or]
  | panics _ _ _ _ _ fails _ ih =>
      rw [ih, List.exists_mem_cons_iff]
      simp only [fails, true_or, or_true]

end Accounts

/-! ## The ledger -/

/-- The pods offered to a call and what it came to, if it was offered any. -/
def items (call : ChoiceCall σ) : List (List Pod × Choice) :=
  if call.offered = [] then [] else [(call.offered, (call.report hash).choice)]

theorem items_of_idle {call : ChoiceCall σ} (h : call.offered = []) : items hash call = [] := by
  rw [items, if_pos h]

theorem items_of_outcome {call : ChoiceCall σ} {pods : List Pod}
    (h : call.discovery.outcome = some (.ok pods)) (hpods : 0 < pods.length) :
    items hash call = [(pods, (call.report hash).choice)] := by
  rw [items, offered_of_outcome h, if_neg (List.ne_nil_of_length_pos hpods)]

/-- The items of the calls on the chooser of a name. -/
def ledger (name : String) (calls : List (ChoiceCall σ)) : List (List Pod × Choice) :=
  (on name calls).flatMap (items hash)

/-- The lengths that the calls on a chooser ask for. -/
def lens (name : String) (calls : List (ChoiceCall σ)) : List Nat :=
  (ledger hash name calls).map (·.1.length)

theorem ledger_append (name : String) (calls more : List (ChoiceCall σ)) :
    ledger hash name (calls ++ more) = ledger hash name calls ++ ledger hash name more := by
  rw [ledger, on_append, List.flatMap_append]
  rfl

theorem ledger_of_called {name : String} {calls : List (ChoiceCall σ)}
    (h : ∀ call ∈ calls, call.caller = some name) :
    ledger hash name calls = calls.flatMap (items hash) := by
  rw [ledger, on_eq_self h]

theorem ledger_of_idle {name : String} {calls : List (ChoiceCall σ)}
    (idle : ∀ call ∈ on name calls, call.offered = []) : ledger hash name calls = [] := by
  rw [ledger, List.flatMap_eq_nil_iff]
  intro call hcall
  exact items_of_idle hash (idle call hcall)

theorem lens_pos {name : String} {calls : List (ChoiceCall σ)} {len : Nat}
    (h : len ∈ lens hash name calls) : 0 < len := by
  obtain ⟨item, hitem, rfl⟩ := List.mem_map.1 h
  obtain ⟨call, _, hcall⟩ := List.mem_flatMap.1 hitem
  by_cases hoffered : call.offered = []
  · rw [items, if_pos hoffered] at hcall
    exact nomatch hcall
  · rw [items, if_neg hoffered] at hcall
    rw [List.mem_singleton.1 hcall]
    exact List.length_pos_iff.2 hoffered

variable {hash}

/-- The source ends as the lengths of the items leave it. -/
theorem Accounts.eq_asked {lock last : Lock σ} {calls : List (ChoiceCall σ)}
    (h : Accounts hash lock calls last) :
    last.content
      = DrawSource.asked lock.content ((calls.flatMap (items hash)).map (·.1.length)) := by
  induction h with
  | nil lock => rfl
  | passes own idle _ _ ih =>
      rw [List.flatMap_cons, items_of_idle hash (offered_eq_nil_iff.2 idle)]
      exact ih
  | @draws lock _ _ call rest pods n own found view offers drawn picks _ ih =>
      rw [List.flatMap_cons, items_of_outcome hash found offers]
      show _ = DrawSource.asked (DrawSource.draw lock.content pods.length).2 _
      rw [drawn]
      exact ih
  | @panics lock _ _ call rest pods own found view offers drawn fails _ ih =>
      rw [List.flatMap_cons, items_of_outcome hash found offers]
      show _ = DrawSource.asked (DrawSource.draw lock.content pods.length).2 _
      rw [drawn]
      exact ih

/-! ## The ambient source -/

/-- A chooser with a source of its own comes to the same in front of any ambient source. -/
theorem report_of_ambient {call : ChoiceCall σ} {lock : Lock σ}
    (own : call.chooser.guarded = .random (some lock)) (ambient : σ) :
    ({ call with ambient }.report hash).choice = (call.report hash).choice
      ∧ ({ call with ambient }.report hash).chooser = (call.report hash).chooser := by
  constructor
  · have hfollows := follows_report hash call
    have hother := follows_report hash { call with ambient }
    cases houtcome : call.discovery.outcome with
    | none => exact (hother.waits houtcome).trans (hfollows.waits houtcome).symm
    | some result =>
        cases result with
        | error e => exact (hother.fails e houtcome).trans (hfollows.fails e houtcome).symm
        | ok pods =>
            rw [hother.picks pods houtcome, hfollows.picks pods houtcome, own]
            rfl
  · exact (@chooser_of_own _ _ _ hash { call with ambient } lock own).trans
      (chooser_of_own hash own).symm

theorem items_of_ambient {call : ChoiceCall σ} {lock : Lock σ}
    (own : call.chooser.guarded = .random (some lock)) (ambient : σ) :
    items hash { call with ambient } = items hash call := by
  rw [items, items, (report_of_ambient own ambient).1]
  rfl

end ChoiceCall

namespace Session

open ChoiceCall

section Accounting

variable {σ : Type} [Executor] [SeededSource σ] {hash : String → UInt64}

/-- So do its calls one after another. -/
theorem series_of_ambient (lister : Lister) (caller : Option String) (n : Nat)
    {chooser : Chooser σ} {lock : Lock σ} (own : chooser.guarded = .random (some lock))
    (ambient other : σ) :
    (seriesCalls hash lister caller n chooser other).flatMap (items hash)
        = (seriesCalls hash lister caller n chooser ambient).flatMap (items hash)
      ∧ (series hash lister n chooser other).2 = (series hash lister n chooser ambient).2 := by
  induction n generalizing chooser lock ambient other with
  | zero => exact ⟨rfl, rfl⟩
  | succ n ih =>
      let call := ChoiceCall.free lister caller chooser ambient
      let call' := ChoiceCall.free lister caller chooser other
      have hitem : items hash call' = items hash call :=
        @items_of_ambient _ _ _ hash call _ own other
      obtain ⟨hchoice, hchooser⟩ : (call'.report hash).choice = (call.report hash).choice
          ∧ (call'.report hash).chooser = (call.report hash).chooser :=
        @report_of_ambient _ _ _ hash call _ own other
      -- Both series go on, or both stop here.
      obtain ⟨selection, h⟩ | hstopped := (call.report hash).choice.selects_or_not
      · obtain ⟨hcalls, hseries⟩ := series_of_selected hash lister caller n chooser ambient h
        obtain ⟨hcalls', hseries'⟩ :=
          series_of_selected hash lister caller n chooser other (hchoice.trans h)
        have hnext := congrArg Chooser.guarded (@chooser_of_own _ _ _ hash call _ own)
        obtain ⟨hitems, hlast⟩ := ih hnext (call.report hash).ambient (call'.report hash).ambient
        rw [hcalls, hcalls', hseries, hseries', List.flatMap_cons, List.flatMap_cons, hitem]
        show _ ++ (seriesCalls hash lister caller n (call'.report hash).chooser _).flatMap _ = _
          ∧ (series hash lister n (call'.report hash).chooser _).2 = _
        rw [hchooser, hitems]
        exact ⟨rfl, hlast⟩
      · obtain ⟨hcalls, hseries⟩ := series_of_stopped hash lister caller n chooser ambient hstopped
        obtain ⟨hcalls', hseries'⟩ := series_of_stopped hash lister caller n chooser other
          (fun selection hselected => hstopped selection (hchoice.symm.trans hselected))
        rw [hcalls, hcalls', hseries, hseries']
        refine ⟨?_, hchooser⟩
        rw [List.flatMap_singleton, List.flatMap_singleton]
        exact hitem

/-! ## Two sessions with one chooser in common -/

/-- Sessions in which a chooser with a source of its own finds the same. -/
structure Alike (name : String) (chooser : Chooser σ) (lock : Lock σ) (full thin : Session σ) :
    Prop where
  lister : thin.lister = full.lister
  here : full.chooser? name = some chooser
  there : thin.chooser? name = some chooser
  own : chooser.guarded = .random (some lock)

/-- A step finds the chooser of a name on the same terms in both sessions. -/
def OnSameTerms (name : String) (full thin : Session σ) (s : Step σ) : Prop :=
  ∀ terms, s = .choose name terms → thin.cancellation terms = full.cancellation terms

variable (hash)

theorem ledger_stepCalls_of_not_called {session : Session σ} {s : Step σ} {name : String}
    (hs : s.called? ≠ some name) : ledger hash name (session.stepCalls hash s) = [] := by
  rw [ledger, on_stepCalls_of_not_called hash hs]
  rfl

/-- A step comes to the same for the chooser in both sessions. -/
theorem step_same {name : String} {chooser : Chooser σ} {lock : Lock σ} {full thin : Session σ}
    {s : Step σ} (h : Alike name chooser lock full thin) (hs : s.named? ≠ some name)
    (hterms : OnSameTerms name full thin s) :
    ledger hash name (thin.stepCalls hash s) = ledger hash name (full.stepCalls hash s)
      ∧ (thin.step hash s).2.chooser? name = (full.step hash s).2.chooser? name := by
  by_cases hcalled : s.called? = some name
  · cases s with
    | choose other terms =>
        obtain rfl := Option.some.inj hcalled
        -- The two calls differ in the ambient source, from which this chooser never draws.
        let call : ChoiceCall σ :=
          ⟨some other, chooser, full.lister, full.cancellation terms, full.ambient⟩
        have hitems : items hash { call with ambient := thin.ambient } = items hash call :=
          items_of_ambient h.own thin.ambient
        have hreport : ({ call with ambient := thin.ambient }.report hash).chooser
            = (call.report hash).chooser := (report_of_ambient h.own thin.ambient).2
        constructor
        · rw [stepCalls, stepCalls, h.here, h.there, h.lister, hterms terms rfl,
            ledger_of_called hash fun call hcall => by rw [List.mem_singleton.1 hcall],
            ledger_of_called hash fun call hcall => by rw [List.mem_singleton.1 hcall],
            List.flatMap_singleton, List.flatMap_singleton]
          exact hitems
        · rw [chooser?_step_choose hash terms h.here, chooser?_step_choose hash terms h.there,
            h.lister, hterms terms rfl]
          exact congrArg some hreport
    | chooseTimes other times =>
        obtain rfl := Option.some.inj hcalled
        obtain ⟨hitems, hlast⟩ := @series_of_ambient _ _ _ hash full.lister (some other) times
          chooser lock h.own full.ambient thin.ambient
        constructor
        · rw [stepCalls, stepCalls, h.here, h.there, h.lister,
            ledger_of_called hash fun call hcall => caller_of_mem_seriesCalls hash hcall,
            ledger_of_called hash fun call hcall => caller_of_mem_seriesCalls hash hcall]
          exact hitems
        · rw [chooser?_step_chooseTimes hash times h.here,
            chooser?_step_chooseTimes hash times h.there, h.lister, hlast]
    | _ => cases hcalled
  · constructor
    · rw [ledger_stepCalls_of_not_called hash hcalled, ledger_stepCalls_of_not_called hash hcalled]
    · rw [chooser?_step_of_not_called hash hcalled hs, chooser?_step_of_not_called hash hcalled hs,
        h.here, h.there]

/-- **STEP**: after a step, two sessions are still alike, with the chooser as the step leaves it. -/
theorem step_alike {name : String} {chooser : Chooser σ} {lock : Lock σ} {full thin : Session σ}
    {s : Step σ} (h : Alike name chooser lock full thin) (hs : s.named? ≠ some name)
    (hterms : OnSameTerms name full thin s) :
    ∃ last next, Alike name last next (full.step hash s).2 (thin.step hash s).2 := by
  obtain ⟨last, hchain, hlast⟩ := step_callChain hash h.here hs
  obtain ⟨next, _, rfl⟩ := hchain.accounts hash h.own
  refine ⟨_, next, ?_, hlast, (step_same hash h hs hterms).2.trans hlast, rfl⟩
  rw [lister_step, lister_step, h.lister]

/-- A call step that offers the chooser nothing leaves it to a session that does not take it. -/
theorem skip_alike {name : String} {chooser : Chooser σ} {lock : Lock σ} {full thin : Session σ}
    {s : Step σ} (h : Alike name chooser lock full thin) (hs : s.named? ≠ some name)
    (hcall : s.isCall = true)
    (idle : ∀ call ∈ on name (full.stepCalls hash s), call.offered = []) :
    Alike name chooser lock (full.step hash s).2 thin := by
  obtain ⟨last, hchain, hlast⟩ := step_callChain hash h.here hs
  obtain ⟨next, haccounts, rfl⟩ := hchain.accounts hash h.own
  -- Calls that are offered nothing leave the source, and with it the chooser, as they were.
  have hsame : chooser = { chooser with guarded := .random (some lock) } := by
    rw [← h.own]
  rw [haccounts.eq_of_idle idle, ← hsame] at hlast
  refine ⟨?_, hlast, h.there, h.own⟩
  rw [lister_step, Step.relist_of_isCall hcall, h.lister]

/-- The steps of a run from `full` that are left for a run from `thin`: calls that offer the chooser
of a name nothing may be left out, and its other calls come on the same terms. -/
inductive Thinned (name : String) :
    Session σ → Session σ → List (Step σ) → List (Step σ) → Prop where
  | nil (full thin : Session σ) : Thinned name full thin [] []
  | keep {full thin : Session σ} {s : Step σ} {steps kept : List (Step σ)}
      (terms : OnSameTerms name full thin s)
      (after : Thinned name (full.step hash s).2 (thin.step hash s).2 steps kept) :
      Thinned name full thin (s :: steps) (s :: kept)
  | skip {full thin : Session σ} {s : Step σ} {steps kept : List (Step σ)}
      (calls : s.isCall = true)
      (idle : ∀ call ∈ on name (full.stepCalls hash s), call.offered = [])
      (after : Thinned name (full.step hash s).2 thin steps kept) :
      Thinned name full thin (s :: steps) kept

/-- **RUN**: a thinned run leaves the ledger of the chooser as it is, and the chooser in the end. -/
theorem run_thinned {name : String} {full thin : Session σ} {steps kept : List (Step σ)}
    (h : Thinned hash name full thin steps kept) (hsteps : ∀ s ∈ steps, s.named? ≠ some name)
    {chooser : Chooser σ} {lock : Lock σ} (halike : Alike name chooser lock full thin) :
    ledger hash name (thin.choiceCalls hash kept) = ledger hash name (full.choiceCalls hash steps)
      ∧ (thin.run hash kept).2.chooser? name = (full.run hash steps).2.chooser? name := by
  -- Along the run the chooser changes with its source; that the sessions are alike is what stays.
  induction h generalizing chooser lock with
  | nil full thin => exact ⟨rfl, halike.there.trans halike.here.symm⟩
  | @keep full thin s steps kept terms _ ih =>
      have hs := hsteps s (List.mem_cons_self ..)
      obtain ⟨last, next, hnext⟩ := step_alike hash halike hs terms
      obtain ⟨hledger, hchooser⟩ := ih (fun s' hs' => hsteps s' (List.mem_cons_of_mem _ hs')) hnext
      refine ⟨?_, hchooser⟩
      rw [choiceCalls, choiceCalls, ledger_append, ledger_append, hledger,
        (step_same hash halike hs terms).1]
  | @skip full thin s steps kept hcall idle _ ih =>
      have hs := hsteps s (List.mem_cons_self ..)
      obtain ⟨hledger, hchooser⟩ := ih (fun s' hs' => hsteps s' (List.mem_cons_of_mem _ hs'))
        (skip_alike hash halike hs hcall idle)
      refine ⟨?_, hchooser⟩
      rw [choiceCalls, ledger_append, ledger_of_idle hash idle, hledger]
      rfl

/-- **DRAWS ARE ACCOUNTED FOR**: in any run that leaves its name alone, a chooser with a source of
its own draws once, with their number, in every call whose discovery finds pods, and never
otherwise; a draw that fails poisons the lock of the source and costs that one call.  Its steps
answer what its calls come to.  Without its calls that find nothing, and without calls on others, it
picks the same from the same. -/
theorem draws_are_accounted (session : Session σ) (steps : List (Step σ)) (name : String)
    (group : ReplicaGroup) (limit : Option Span) (lock : Lock σ)
    (hchooser : session.chooser? name = some ⟨group, limit, .random (some lock)⟩)
    (hsteps : ∀ s ∈ steps, s.named? ≠ some name) :
    let calls := on name (session.choiceCalls hash steps)
    ∃ last,
      Accounts hash lock calls last
        ∧ (session.run hash steps).2.chooser? name = some ⟨group, limit, .random (some last)⟩
        ∧ (∀ call ∈ calls, Discovers call.lister group limit call.cancellation
            call.discovery.outcome (call.report hash).calls)
        ∧ last.content
            = DrawSource.asked lock.content (lens hash name (session.choiceCalls hash steps))
        ∧ (∀ len ∈ lens hash name (session.choiceCalls hash steps), 0 < len)
        ∧ (last.poisoned = true
            ↔ lock.poisoned = true ∨ ∃ call ∈ calls, (call.report hash).choice = .drawFailed)
        ∧ (∀ earlier s later, steps = earlier ++ s :: later → s.isChoice = true →
            let now := (session.run hash earlier).2
            ∃ report, (session.run hash steps).1[earlier.length]? = some report
              ∧ now.Answers s ((now.stepCalls hash s).map (·.report hash)) report)
        ∧ ∀ kept, Thinned hash name session session steps kept →
            ledger hash name (session.choiceCalls hash kept)
                = ledger hash name (session.choiceCalls hash steps)
              ∧ (session.run hash kept).2.chooser? name
                = some ⟨group, limit, .random (some last)⟩ := by
  intro calls
  obtain ⟨chooser, hchain, hlast⟩ := run_callChain hash hchooser hsteps
  obtain ⟨last, haccounts, rfl⟩ := hchain.accounts hash rfl
  refine ⟨last, haccounts, hlast, ?_, haccounts.eq_asked, ?_, haccounts.poisoned_iff, ?_, ?_⟩
  · intro call hcall
    obtain ⟨hgroup, hlimit⟩ := hchain.terms_eq hash call hcall
    have hdiscovers := discovers_report hash call
    rwa [hgroup, hlimit] at hdiscovers
  · intro len hlen
    exact lens_pos hash hlen
  · rintro earlier s later rfl hs
    exact answers_run hash session hs
  · intro kept hkept
    obtain ⟨hledger, hsame⟩ := run_thinned hash hkept hsteps ⟨rfl, hchooser, hchooser, rfl⟩
    exact ⟨hledger, hsame.trans hlast⟩

end Accounting

/-- A call on a lister that is down and a discovery cost a scripted chooser none of its draws, and
the poison of an earlier failure does not keep it from drawing. -/
theorem draws_of_scripted_chooser :
    let hash : String → UInt64 := fun _ => 0
    let group : ReplicaGroup := ⟨"web"⟩
    let lock : Lock AnySource := ⟨.scripted (.ofAnswers [some 5]), true⟩
    let terms : CallTerms := ⟨none, .never⟩
    let session : Session AnySource :=
      ⟨.ofPods [.ofGroup group "b", .ofGroup group "a"], group,
        [("r", ⟨group, none, .random (some lock)⟩)], [], .turning ⟨0⟩⟩
    let kept : List (Step AnySource) :=
      [.setFailure (some "down"), .setFailure none, .choose "r" terms]
    ∃ last : Lock AnySource, last.content.lens = [2] ∧ last.poisoned = true
      ∧ (session.run hash kept).2.chooser? "r" = some ⟨group, none, .random (some last)⟩ := by
  intro hash group lock terms session kept
  let steps : List (Step AnySource) := [.setFailure (some "down"), .choose "r" terms,
    .discover none terms, .setFailure none, .choose "r" terms]
  have hchooser : session.chooser? "r" = some ⟨group, none, .random (some lock)⟩ := by cbv
  have hsteps : ∀ s ∈ steps, s.named? ≠ some "r" := by
    intro s hs
    simp only [steps, List.mem_cons, List.not_mem_nil, or_false] at hs
    rcases hs with rfl | rfl | rfl | rfl | rfl <;> simp [Step.named?]
  have hdown : ∀ call ∈ on "r" ((session.step hash (.setFailure (some "down"))).2.stepCalls hash
      (.choose "r" terms)), call.offered = [] := by
    intro call hcall
    obtain rfl := List.mem_singleton.1 (List.mem_filter.1 hcall).1
    exact offered_of_failure rfl
  have hthinned : Thinned hash "r" session session steps kept :=
    .keep (fun _ _ => rfl) (.skip rfl hdown
      (.skip rfl (fun _ hcall => absurd hcall List.not_mem_nil)
        (.keep (fun _ _ => rfl) (.keep (fun _ h => by cases h; rfl) (.nil _ _)))))
  obtain ⟨last, _, _, _, hlast, _, hpoisoned, _, hkept⟩ :=
    draws_are_accounted hash session steps "r" group none lock hchooser hsteps
  obtain ⟨hledger, hsame⟩ := hkept kept hthinned
  refine ⟨last, ?_, hpoisoned.2 (Or.inl rfl), hsame⟩
  have hlens : lens hash "r" (session.choiceCalls hash kept) = [2] := by cbv
  rw [hlast, AnySource.lens_asked, lens, ← hledger]
  exact hlens

end Session

end PodPlacement

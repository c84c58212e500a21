import FeedReader.Paging.Arrival

/-!
# Runs of a loader

A loader is used by one party and answered by another: its user calls operations, the
server completes requests, and somebody else may write to the cache, or break it, at any
time. Each of these is an *act*, and a **run** is a list of acts, in any order whatever.
Nothing is asked of a run: completions may arrive late, in any order, twice, or for
requests that were never made.

Operations that wait are no acts of their own. They are made of asking for a page and of
completions, so that what holds of every run holds in the middle of them too.

What a run has done is read off its `FeedReader.Loader.history`, the acts together with
the loaders that they met.
-/

namespace FeedReader

/-- What may happen to a loader. -/
inductive Act
  | reset (context : Context)
  | loadOffline
  | changeLevel (level : Level)
  | requestPage
  | mark (change : FlagChange) (id : StoryId)
  | markAllRead
  | complete (completion : Completion)
  /-- The cache is written to by somebody else, or begins or ceases to work. -/
  | useCache (cache : Cache)

/-- Whether a new stream begins. -/
def Act.isReset : Act → Bool
  | reset _ => true
  | _ => false

namespace Loader

/-- The loader after an act. -/
def step (l : Loader) : Act → Loader
  | .reset context => l.reset context
  | .loadOffline => l.loadOffline.1
  | .changeLevel level => l.changeLevel level
  | .requestPage => l.requestPage.1
  | .mark change id => (l.mark change id).1
  | .markAllRead => l.markAllRead.1
  | .complete completion => (l.complete completion).1
  | .useCache cache => { l with cache }

/-- The loader after a list of acts. -/
def run (l : Loader) (acts : List Act) : Loader := acts.foldl step l

@[simp] theorem run_nil (l : Loader) : l.run [] = l := rfl

@[simp] theorem run_cons (l : Loader) (act : Act) (acts : List Act) :
    l.run (act :: acts) = (l.step act).run acts := rfl

@[simp] theorem run_append (l : Loader) (acts acts' : List Act) :
    l.run (acts ++ acts') = (l.run acts).run acts' := by
  simp [run]

/-- **What every step keeps, every run keeps.** -/
theorem run_induction {P : Loader → Prop} (hstep : ∀ l act, P l → P (l.step act)) {l : Loader}
    (h : P l) (acts : List Act) : P (l.run acts) := by
  induction acts generalizing l with
  | nil => exact h
  | cons act acts ih => exact ih (hstep l act h)

/-- A loader that a new one can become. -/
inductive Reachable : Loader → Prop
  /-- A new loader, with any cache. -/
  | new (context : Context) (cache : Cache) (pageSize : Nat) :
      Reachable (Loader.new context cache pageSize)
  /-- One more act. -/
  | step {l : Loader} (act : Act) : Reachable l → Reachable (l.step act)

theorem Reachable.run {l : Loader} (h : Reachable l) (acts : List Act) : Reachable (l.run acts) :=
  run_induction (fun _ act => .step act) h acts

theorem Reachable.exists_run {l : Loader} (h : Reachable l) :
    ∃ context cache pageSize acts, l = (Loader.new context cache pageSize).run acts := by
  induction h with
  | new context cache pageSize => exact ⟨context, cache, pageSize, [], rfl⟩
  | step act _ ih =>
    obtain ⟨context, cache, pageSize, acts, rfl⟩ := ih
    exact ⟨context, cache, pageSize, acts ++ [act], by rw [run_append]; rfl⟩

/-! ### What happened in a run -/

/-- The acts of a run, each with the loader that it met. -/
def history (l : Loader) : List Act → List (Loader × Act)
  | [] => []
  | act :: acts => (l, act) :: (l.step act).history acts

theorem history_append (l : Loader) (acts acts' : List Act) :
    l.history (acts ++ acts') = l.history acts ++ (l.run acts).history acts' := by
  induction acts generalizing l with
  | nil => rfl
  | cons act acts ih => simp [history, ih]

theorem filterMap_history_append {α : Type} (f : Loader × Act → Option α) (l : Loader)
    (acts acts' : List Act) :
    (l.history (acts ++ acts')).filterMap f =
      (l.history acts).filterMap f ++ ((l.run acts).history acts').filterMap f := by
  rw [history_append, List.filterMap_append]

/-- What is read off a history grows with it. -/
theorem filterMap_history_concat {α : Type} (f : Loader × Act → Option α) (l : Loader)
    (acts : List Act) (act : Act) :
    (l.history (acts ++ [act])).filterMap f =
      (l.history acts).filterMap f ++ (f (l.run acts, act)).toList := by
  rw [filterMap_history_append]
  cases h : f (l.run acts, act) <;> simp [history, h]

/-- A page that was merged. -/
structure Merge where
  ticket : Ticket
  stories : List Story

/-- The page that an act merges, if it merges one: the loader says that it has been loaded. -/
def merge? : Loader × Act → Option Merge
  | (l, .complete (.page ticket (.ok stories))) =>
    match (l.complete (.page ticket (.ok stories))).2 with
    | .page _ (.ok (.loaded _ _)) => some ⟨ticket, stories⟩
    | _ => none
  | _ => none

/-- The pages that a run merges, in order. -/
def merges (l : Loader) (acts : List Act) : List Merge := (l.history acts).filterMap merge?

theorem merges_concat (l : Loader) (acts : List Act) (act : Act) :
    l.merges (acts ++ [act]) = l.merges acts ++ (merge? (l.run acts, act)).toList :=
  filterMap_history_concat merge? l acts act

/-- Those merged pages that belong to a generation. -/
def inGeneration (generation : Nat) (merges : List Merge) : List Merge :=
  merges.filter fun merge => merge.ticket.generation = generation

theorem inGeneration_append (generation : Nat) (merges merges' : List Merge) :
    inGeneration generation (merges ++ merges') =
      inGeneration generation merges ++ inGeneration generation merges' :=
  List.filter_append ..

/-- The pages that a run merges in one generation, in order. -/
def mergesOf (l : Loader) (acts : List Act) (generation : Nat) : List Merge :=
  inGeneration generation (l.merges acts)

/-- The number of the flag change that an act confirms, if it confirms one. -/
def confirmation? : Loader × Act → Option Nat
  | (l, .complete (.flag number (.ok ()))) =>
    match (l.complete (.flag number (.ok ()))).2 with
    | .flag _ _ => some number
    | _ => none
  | _ => none

/-- The numbers of the flag changes that the server confirms in a run. -/
def confirmations (l : Loader) (acts : List Act) : List Nat :=
  (l.history acts).filterMap confirmation?

/-- The number of the flag change that an act reports as failed, if there is one. -/
def failure? : Loader × Act → Option Nat
  | (l, .complete (.flag number (.error cause))) =>
    match (l.complete (.flag number (.error cause))).2 with
    | .flag _ _ => some number
    | _ => none
  | _ => none

/-- The numbers of the flag changes that fail in a run. -/
def failures (l : Loader) (acts : List Act) : List Nat := (l.history acts).filterMap failure?

end Loader

end FeedReader

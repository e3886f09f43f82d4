import HubAuth.Step
import Mathlib.Data.List.Forall2

/-! # Histories

  A history is a list of requests that are served one after the other, each by
  the state that the one before it left. What serving one request keeps,
  serving any number of them keeps. Two histories are compared step by step.

  The events of a history are its requests with what came of them; a run lists
  them together with what each request found outside of the state. If it is
  known what one event does to a state, or to what is seen of it, then the
  events of a history make a trail from the first state to the last.

  * `events_split_cons`, `run_split_cons`: an event of a history is a request
    that was served.
  * `exists_trail`, `trail_events`: from what one request does, what a history
    does.
  * `Trail.keeps`: what every event of a trail keeps, the trail keeps.
  * `steps_side_by_side`: from what two requests do, what two histories do.
-/

namespace HubAuth.Step

variable {σ ι ω ρ α β ε κ : Type}

/-- The state that a history leads to. -/
def stateAfter (serve : σ → ι → Step σ α) (s : σ) (history : List ι) : σ :=
  history.foldl (fun s r => (serve s r).state) s

@[simp] theorem stateAfter_nil (serve : σ → ι → Step σ α) (s : σ) :
    stateAfter serve s [] = s := rfl

@[simp] theorem stateAfter_cons (serve : σ → ι → Step σ α) (s : σ) (r : ι) (rest : List ι) :
    stateAfter serve s (r :: rest) = stateAfter serve (serve s r).state rest := rfl

/-- A property that every request of a kind keeps holds after every history of
    requests of that kind. -/
theorem stateAfter_induct {serve : σ → ι → Step σ α} {P : σ → Prop} {Q : ι → Prop}
    (keeps : ∀ s r, Q r → P s → P (serve s r).state) {s : σ} (start : P s) {history : List ι}
    (kind : ∀ r ∈ history, Q r) : P (stateAfter serve s history) := by
  induction history generalizing s with
  | nil => exact start
  | cons r rest ih =>
    rw [stateAfter_cons]
    apply ih
    · exact keeps s r (kind r (by simp)) start
    · intro q hq
      exact kind q (by simp [hq])

/-! ### The events of a history -/

/-- The events of a history: `event` makes one of every request and of the step
    that it led to. -/
def events (serve : σ → ι → Step σ α) (event : ι → Step σ α → ε) (s : σ) : List ι → List ε
  | [] => []
  | r :: rest => event r (serve s r) :: events serve event (serve s r).state rest

/-- What came of the requests of a history. -/
def steps (serve : σ → ι → Step σ α) (s : σ) (history : List ι) : List (Step σ α) :=
  events serve (fun _ step => step) s history

section Events

variable {serve : σ → ι → Step σ α} {event : ι → Step σ α → ε}

theorem events_append (s : σ) (history more : List ι) :
    events serve event s (history ++ more)
      = events serve event s history ++ events serve event (stateAfter serve s history) more := by
  induction history generalizing s with
  | nil => rfl
  | cons r rest ih =>
    rw [List.cons_append, events, events, ih, List.cons_append]
    rfl

/-- The first part of some events are the events of the first part of their
    history, and the rest are events of the state that is left then. -/
theorem events_split {s : σ} {history : List ι} {before more : List ε}
    (h : events serve event s history = before ++ more) :
    ∃ first rest, history = first ++ rest ∧ events serve event s first = before ∧
      events serve event (stateAfter serve s first) rest = more := by
  induction before generalizing s history with
  | nil => exact ⟨[], history, rfl, rfl, h⟩
  | cons ev before ih =>
    cases history with
    | nil => cases h
    | cons r history =>
      rw [events, List.cons_append] at h
      obtain ⟨hev, hrest⟩ := List.cons.inj h
      obtain ⟨first, rest, rfl, hfirst, hmore⟩ := ih hrest
      refine ⟨r :: first, rest, rfl, ?_, hmore⟩
      rw [events, hev, hfirst]

/-- An event is a request that was served. -/
theorem events_split_cons {s : σ} {history : List ι} {before rest : List ε} {ev : ε}
    (h : events serve event s history = before ++ ev :: rest) :
    ∃ first r later, history = first ++ r :: later ∧ events serve event s first = before ∧
      ev = event r (serve (stateAfter serve s first) r) ∧
      events serve event (serve (stateAfter serve s first) r).state later = rest := by
  obtain ⟨first, more, rfl, hfirst, hmore⟩ := events_split h
  cases more with
  | nil => cases hmore
  | cons r later =>
    rw [events] at hmore
    obtain ⟨hev, hrest⟩ := List.cons.inj hmore
    exact ⟨first, r, later, rfl, hfirst, hev.symm, hrest⟩

theorem map_events {δ : Type} (f : ε → δ) (s : σ) (history : List ι) :
    (events serve event s history).map f
      = events serve (fun r step => f (event r step)) s history := by
  induction history generalizing s with
  | nil => rfl
  | cons r rest ih => rw [events, List.map_cons, ih, events]

end Events

/-- Of some events none is of a kind, or there is a last one of that kind. -/
theorem none_or_last (P : ε → Prop) (events : List ε) :
    (∀ ev ∈ events, ¬P ev) ∨
      ∃ before ev rest, events = before ++ ev :: rest ∧ P ev ∧ ∀ ev' ∈ rest, ¬P ev' := by
  induction events with
  | nil => exact .inl (by simp)
  | cons ev rest ih =>
    rcases ih with hquiet | ⟨before, last, later, rfl, hlast, hlater⟩
    · by_cases hev : P ev
      · exact .inr ⟨[], ev, rest, rfl, hev, hquiet⟩
      · left
        intro ev' hev'
        rcases List.mem_cons.mp hev' with rfl | hmem
        · exact hev
        · exact hquiet ev' hmem
    · exact .inr ⟨ev :: before, last, later, rfl, hlast, hlater⟩

/-! ### Runs -/

/-- One request of a run. -/
structure Event (ω ρ σ α : Type) where
  /-- What the request found outside of the state. -/
  world : ω
  /-- What was asked. -/
  request : ρ
  /-- What came of it. -/
  step : Step σ α

/-- The run that a history makes. -/
def run (serve : σ → ω → ρ → Step σ α) (s : σ) (history : List (ω × ρ)) : List (Event ω ρ σ α) :=
  events (fun s r => serve s r.1 r.2) (fun r step => ⟨r.1, r.2, step⟩) s history

/-- What was asked for last in a run, where `asked?` tells what a request asks
    for, or what was there before if nothing was. -/
def lastAsked (asked? : ρ → Option β) (start : β) (run : List (Event ω ρ σ α)) : β :=
  run.foldl (fun b ev => (asked? ev.request).getD b) start

section Run

variable {serve : σ → ω → ρ → Step σ α}

theorem run_append (s : σ) (history more : List (ω × ρ)) :
    run serve s (history ++ more) = run serve s history
      ++ run serve (stateAfter (fun s r => serve s r.1 r.2) s history) more :=
  events_append s history more

/-- An event of a run is a request that was served. -/
theorem run_split_cons {s : σ} {history : List (ω × ρ)} {before rest : List (Event ω ρ σ α)}
    {ev : Event ω ρ σ α} (h : run serve s history = before ++ ev :: rest) :
    ∃ first w r later, history = first ++ (w, r) :: later ∧ run serve s first = before ∧
      ev = ⟨w, r, serve (stateAfter (fun s r => serve s r.1 r.2) s first) w r⟩ := by
  obtain ⟨first, ⟨w, r⟩, later, hhistory, hfirst, hev, -⟩ := events_split_cons h
  exact ⟨first, w, r, later, hhistory, hfirst, hev⟩

end Run

/-! ### Trails -/

/-- Some events lead from one state to another, if `T` says what one event
    does. -/
inductive Trail (T : κ → ε → κ → Prop) : κ → List ε → κ → Prop
  | nil (k : κ) : Trail T k [] k
  | cons {k l m : κ} {ev : ε} {rest : List ε} (head : T k ev l) (tail : Trail T l rest m) :
      Trail T k (ev :: rest) m

namespace Trail

variable {T : κ → ε → κ → Prop} {k m : κ}

theorem of_cons {ev : ε} {rest : List ε} (h : Trail T k (ev :: rest) m) :
    ∃ l, T k ev l ∧ Trail T l rest m := by
  cases h with
  | cons head tail => exact ⟨_, head, tail⟩

theorem append {l : κ} {before rest : List ε} (first : Trail T k before l)
    (second : Trail T l rest m) : Trail T k (before ++ rest) m := by
  induction first with
  | nil k => exact second
  | cons head tail ih => exact .cons head (ih second)

/-- A trail passes through a state between any two parts of it. -/
theorem of_append {before rest : List ε} (h : Trail T k (before ++ rest) m) :
    ∃ l, Trail T k before l ∧ Trail T l rest m := by
  induction before generalizing k with
  | nil => exact ⟨k, .nil k, h⟩
  | cons ev before ih =>
    obtain ⟨k', head, tail⟩ := h.of_cons
    obtain ⟨l, hbefore, hrest⟩ := ih tail
    exact ⟨l, .cons head hbefore, hrest⟩

/-- What every event keeps holds at the end, and around every event. -/
theorem keeps {events : List ε} (h : Trail T k events m) {P : κ → Prop}
    (step : ∀ a ev b, ev ∈ events → T a ev b → P a → P b) (start : P k) :
    P m ∧ ∀ ev ∈ events, ∃ a b, P a ∧ T a ev b ∧ P b := by
  induction h with
  | nil k => exact ⟨start, by simp⟩
  | @cons k l m ev rest head tail ih =>
    have hl : P l := step k ev l List.mem_cons_self head start
    obtain ⟨hend, hrest⟩ := ih (fun a ev' b hev' => step a ev' b (List.mem_cons_of_mem ev hev')) hl
    refine ⟨hend, ?_⟩
    intro ev' hev'
    rcases List.mem_cons.mp hev' with rfl | hmem
    · exact ⟨k, l, start, head, hl⟩
    · exact hrest ev' hmem

end Trail

section Events

variable {serve : σ → ι → Step σ α} {event : ι → Step σ α → ε} {T : κ → ε → κ → Prop}

/-- If what stands for a state goes on with every request as `T` says, and then
    stands for the next state, it goes on so with every history. -/
theorem exists_trail {R : κ → σ → Prop}
    (turn : ∀ {k s} r, R k s → ∃ l, R l (serve s r).state ∧ T k (event r (serve s r)) l)
    {k : κ} {s : σ} (start : R k s) (history : List ι) :
    ∃ m, R m (stateAfter serve s history) ∧ Trail T k (events serve event s history) m := by
  induction history generalizing k s with
  | nil => exact ⟨k, start, .nil k⟩
  | cons r rest ih =>
    obtain ⟨l, hl, head⟩ := turn r start
    obtain ⟨m, hm, tail⟩ := ih hl
    exact ⟨m, hm, .cons head tail⟩

/-- So does what is seen of a state. -/
theorem trail_events (view : σ → κ)
    (turn : ∀ s r, T (view s) (event r (serve s r)) (view (serve s r).state)) (s : σ)
    (history : List ι) :
    Trail T (view s) (events serve event s history) (view (stateAfter serve s history)) := by
  have hview : ∀ {k s} r, view s = k →
      ∃ l, view (serve s r).state = l ∧ T k (event r (serve s r)) l := by
    rintro k s r rfl
    exact ⟨_, rfl, turn s r⟩
  obtain ⟨m, rfl, htrail⟩ := exists_trail (R := fun k s => view s = k) hview rfl history
  exact htrail

end Events

/-! ### Two histories side by side -/

/-- If two requests of a kind, served by two states that correspond, always lead
    to steps that do, so do two histories of such requests. -/
theorem steps_side_by_side {serve : σ → ι → Step σ α} {S : σ → σ → Prop} {Q : ι → ι → Prop}
    {E : Step σ α → Step σ α → Prop}
    (pair : ∀ {s t r q}, S s t → Q r q → E (serve s r) (serve t q))
    (state : ∀ {x y}, E x y → S x.state y.state) {s t : σ} (start : S s t)
    {history history' : List ι} (same : List.Forall₂ Q history history') :
    S (stateAfter serve s history) (stateAfter serve t history') ∧
      List.Forall₂ E (steps serve s history) (steps serve t history') := by
  induction same generalizing s t with
  | nil => exact ⟨start, .nil⟩
  | @cons r q rest rest' hrq _ ih =>
    have hfirst : E (serve s r) (serve t q) := pair start hrq
    obtain ⟨hafter, hrest⟩ := ih (state hfirst)
    exact ⟨hafter, .cons hfirst hrest⟩

/-- Two steps log the same, and states and values correspond. -/
structure Alike (S : σ → σ → Prop) (V : α → α → Prop) (x y : Step σ α) : Prop where
  /-- The states after the steps. -/
  state : S x.state y.state
  /-- The values. -/
  value : V x.value y.value
  /-- The logs, entry by entry. -/
  log : x.log = y.log

theorem Alike.imp {S S' : σ → σ → Prop} {V V' : α → α → Prop} {x y : Step σ α}
    (h : Alike S V x y) (state : ∀ a b, S a b → S' a b) (value : ∀ a b, V a b → V' a b) :
    Alike S' V' x y :=
  ⟨state _ _ h.state, value _ _ h.value, h.log⟩

end HubAuth.Step

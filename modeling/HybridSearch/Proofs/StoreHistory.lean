import HybridSearch.Proofs.Bounds
import HybridSearch.Proofs.WeightChange

/-!
# What a weight store serves

Candidates reach a store from its owner and, if it follows a document, from there. Whatever comes
first and however often, the store serves the last one that it has accepted.
-/

namespace HybridSearch

theorem Weights.load_eq_ok_iff {content : Option String} {w : Weights} :
    load content = .ok w ↔ content.bind parse? = some w ∧ w.isValid := by
  unfold load
  cases content with
  | none => simp
  | some text =>
      cases hparse : parse? text with
      | none => simp [hparse]
      | some candidate =>
          by_cases hvalid : candidate.isValid
          · simp only [hparse, hvalid, ↓reduceIte, Option.bind_some, Except.ok.injEq,
              Option.some_inj, iff_self_and]
            rintro rfl
            exact hvalid
          · simp only [hparse, hvalid, Option.bind_some, Option.some_inj]
            simp only [Bool.false_eq_true, ↓reduceIte, reduceCtorEq, false_iff, not_and]
            rintro rfl
            exact hvalid

namespace WeightStore

variable {store : WeightStore} {content : Option String}

/-- All that a look at the document can come to. -/
theorem poll_cases (store : WeightStore) (content : Option String) :
    (store.followsSource = false ∧ store.poll content = .ok (store, false)) ∨
    (store.followsSource ∧ (∀ w, content.bind Weights.parse? = some w → w.isValid = false) ∧
      ∃ cause, store.poll content = .error cause) ∨
    ∃ w, store.followsSource ∧ content.bind Weights.parse? = some w ∧ w.isValid ∧
      ((store.snapshot == w) = true ∧ store.poll content = .ok (store, false) ∨
        (store.snapshot == w) = false ∧
          store.poll content = .ok ({ store with snapshot := w }, true)) := by
  unfold poll
  by_cases hfollows : store.followsSource
  · right
    cases hload : Weights.load content with
    | error cause =>
        left
        refine ⟨hfollows, ?_, cause, by simp [hfollows]⟩
        intro w hdocument
        rw [Bool.eq_false_iff]
        intro hvalid
        cases hload.symm.trans (Weights.load_eq_ok_iff.mpr ⟨hdocument, hvalid⟩)
    | ok w =>
        right
        obtain ⟨hdocument, hvalid⟩ := Weights.load_eq_ok_iff.mp hload
        refine ⟨w, hfollows, hdocument, hvalid, ?_⟩
        cases hsame : store.snapshot == w with
        | true => exact .inl ⟨rfl, by simp [hfollows, hsame]⟩
        | false => exact .inr ⟨rfl, by simp [hfollows, hsame, reload, hvalid]⟩
  · exact .inl ⟨Bool.eq_false_iff.mpr hfollows, by simp [hfollows]⟩

theorem exists_poll_true_iff (store : WeightStore) :
    (∃ next, store.poll content = .ok (next, true)) ↔ store.followsSource ∧
      ∃ w, content.bind Weights.parse? = some w ∧ w.isValid ∧ (store.snapshot == w) = false := by
  obtain ⟨hfixed, hpoll⟩ | ⟨hsource, hinvalid, cause, hpoll⟩ |
      ⟨w, hsource, hdocument, hvalid, ⟨hsame, hpoll⟩ | ⟨hother, hpoll⟩⟩ :=
    store.poll_cases content
  · simp [hfixed, hpoll]
  · have hnone : ¬ ∃ w, content.bind Weights.parse? = some w ∧ w.isValid ∧
        (store.snapshot == w) = false := by
      rintro ⟨w, hdocument, hvalid, -⟩
      cases (hinvalid w hdocument).symm.trans hvalid
    simp only [hpoll, hnone, and_false, reduceCtorEq, exists_false]
  · simp [hpoll, hdocument, hsame]
  · simp [hsource, hpoll, hdocument, hvalid, hother]

theorem document_of_poll_true {next : WeightStore}
    (hnew : store.poll content = .ok (next, true)) :
    content.bind Weights.parse? = some next.snapshot := by
  obtain ⟨-, hpoll⟩ | ⟨-, -, cause, hpoll⟩ | ⟨w, -, hdocument, -, ⟨-, hpoll⟩ | ⟨-, hpoll⟩⟩ :=
    store.poll_cases content
  all_goals cases hpoll.symm.trans hnew
  exact hdocument

/-- A document that is the same as a snapshot in bounds is in bounds itself, and not refused. -/
theorem exists_poll_false_iff (hsnapshot : store.snapshot.isValid) :
    (∃ next, store.poll content = .ok (next, false)) ↔ store.followsSource = false ∨
      ∃ w, content.bind Weights.parse? = some w ∧ (store.snapshot == w) = true := by
  obtain ⟨hfixed, hpoll⟩ | ⟨hsource, hinvalid, cause, hpoll⟩ |
      ⟨w, hsource, hdocument, -, ⟨hsame, hpoll⟩ | ⟨hother, hpoll⟩⟩ :=
    store.poll_cases content
  · simp [hfixed, hpoll]
  · have hnone : ¬ ∃ w, content.bind Weights.parse? = some w ∧ (store.snapshot == w) = true := by
      rintro ⟨w, hdocument, hsame⟩
      rw [Weights.isValid_congr hsame, hinvalid w hdocument] at hsnapshot
      cases hsnapshot
    simp only [hpoll, hsource, hnone, reduceCtorEq, exists_false, Bool.true_eq_false, or_self]
  · simp [hpoll, hdocument, hsame]
  · simp [hsource, hpoll, hdocument, hother]

end WeightStore

/-- A store beside the document that it may follow, as this can be read at the time. -/
structure Keeper where
  store : WeightStore
  content : Option String

namespace Keeper

inductive Event where
  | reload (candidate : Weights)
  /-- The document is written anew or, without content, removed or made unreadable. -/
  | rewrite (content : Option String)
  | poll
  /-- A poll in the background, which tells nobody what came of it. -/
  | tick

def document? (k : Keeper) : Option Weights := k.content.bind Weights.parse?

/-- What an event comes to: a failure, or the store from then on and whether it has taken a new
snapshot. -/
def outcome (k : Keeper) : Event → Except ReloadError (WeightStore × Bool)
  | .reload candidate =>
    match k.store.reload candidate with
    | .ok next => .ok (next, true)
    | .error cause => .error cause
  | .rewrite _ => .ok (k.store, false)
  | .poll | .tick => k.store.poll k.content

def candidate? (k : Keeper) : Event → Option Weights
  | .reload candidate => some candidate
  | .rewrite _ => none
  | .poll | .tick => k.document?

def accepted? (k : Keeper) (event : Event) : Option Weights :=
  match k.outcome event with
  | .ok (_, true) => k.candidate? event
  | _ => none

def step (k : Keeper) (event : Event) : Keeper where
  store := match k.outcome event with
    | .ok (next, _) => next
    | .error _ => k.store
  content := match event with
    | .rewrite content => content
    | _ => k.content

def run (k : Keeper) (events : List Event) : Keeper := events.foldl step k

/-- The candidates that are accepted in the course of some events. -/
def acceptedIn (k : Keeper) : List Event → List Weights
  | [] => []
  | event :: events => (k.accepted? event).toList ++ (k.step event).acceptedIn events

/-- A store as it is opened, and the weights that it begins with. -/
inductive Opened : Keeper → Weights → Prop where
  | following (content : Option String) : Opened ⟨.following content, content⟩
      (((content.bind Weights.parse?).filter (·.isValid)).getD .default)
  | fixed {w : Weights} (content : Option String) : w.isValid → Opened ⟨.fixed w, content⟩ w

theorem Opened.snapshot {k : Keeper} {initial : Weights} (hopened : Opened k initial) :
    k.store.snapshot = initial ∧ initial.isValid := by
  cases hopened with
  | following content =>
      cases hload : Weights.load content with
      | ok w =>
          obtain ⟨hdocument, hvalid⟩ := Weights.load_eq_ok_iff.mp hload
          simp [WeightStore.following, hload, hdocument, hvalid, Option.filter]
      | error cause =>
          have hnone : (content.bind Weights.parse?).filter (·.isValid) = none := by
            rw [Option.filter_eq_none_iff]
            intro w hdocument hvalid
            cases hload.symm.trans (Weights.load_eq_ok_iff.mpr ⟨hdocument, hvalid⟩)
          simp [WeightStore.following, hload, hnone, Weights.isValid_default]
  | fixed content hvalid => exact ⟨rfl, hvalid⟩

/-- An event fails, changes nothing, or brings a candidate in bounds that becomes the snapshot. -/
theorem outcome_cases (k : Keeper) (event : Event) :
    (∃ cause, k.outcome event = .error cause) ∨ k.outcome event = .ok (k.store, false) ∨
    ∃ w, k.candidate? event = some w ∧ w.isValid ∧
      k.outcome event = .ok ({ k.store with snapshot := w }, true) := by
  have hpoll : (∃ cause, k.store.poll k.content = .error cause) ∨
      k.store.poll k.content = .ok (k.store, false) ∨
      ∃ w, k.document? = some w ∧ w.isValid ∧
        k.store.poll k.content = .ok ({ k.store with snapshot := w }, true) := by
    obtain ⟨-, hpoll⟩ | ⟨-, -, hpoll⟩ | ⟨w, -, hdocument, hvalid, ⟨-, hpoll⟩ | ⟨-, hpoll⟩⟩ :=
      k.store.poll_cases k.content
    · exact .inr (.inl hpoll)
    · exact .inl hpoll
    · exact .inr (.inl hpoll)
    · exact .inr (.inr ⟨w, hdocument, hvalid, hpoll⟩)
  cases event with
  | reload candidate =>
      by_cases hvalid : candidate.isValid
      · exact .inr (.inr ⟨candidate, rfl, hvalid, by simp [outcome, WeightStore.reload, hvalid]⟩)
      · exact .inl ⟨_, by simp [outcome, WeightStore.reload, hvalid]; rfl⟩
  | rewrite content => exact .inr (.inl rfl)
  | poll => exact hpoll
  | tick => exact hpoll

/-- What one event leaves of the store, if its snapshot is in bounds. -/
theorem step_store {k : Keeper} (event : Event) (hvalid : k.store.snapshot.isValid) :
    (k.step event).store.followsSource = k.store.followsSource ∧
      (k.step event).store.snapshot.isValid ∧
      (k.step event).store.snapshot = (k.accepted? event).getD k.store.snapshot := by
  obtain ⟨cause, houtcome⟩ | houtcome | ⟨w, hcandidate, hw, houtcome⟩ := k.outcome_cases event
  · simp [step, accepted?, houtcome, hvalid]
  · simp [step, accepted?, houtcome, hvalid]
  · simp [step, accepted?, houtcome, hcandidate, hw]

theorem run_store (events : List Event) {k : Keeper} (hvalid : k.store.snapshot.isValid) :
    (k.run events).store.followsSource = k.store.followsSource ∧
      (k.run events).store.snapshot.isValid ∧
      (k.run events).store.snapshot = (k.acceptedIn events).getLast?.getD k.store.snapshot := by
  induction events generalizing k with
  | nil => exact ⟨rfl, hvalid, rfl⟩
  | cons event events ih =>
      obtain ⟨hfollows, hstep, hsnapshot⟩ := step_store event hvalid
      obtain ⟨hfollowsRest, hrest, hlast⟩ := ih hstep
      refine ⟨hfollowsRest.trans hfollows, hrest, hlast.trans ?_⟩
      rw [acceptedIn, List.getLast?_append, hsnapshot]
      cases k.accepted? event <;> simp

/-- After any events a store serves the last candidate that it has accepted, which is in bounds, or
what it was opened with. A failure leaves it as it is. A poll tells the truth about the document,
weights being the same when their numbers compare as equal. -/
theorem serves_last_accepted {k₀ k : Keeper} {initial : Weights} (hopened : Opened k₀ initial)
    {events : List Event} (hrun : k₀.run events = k) :
    k.store.snapshot.isValid ∧
    k.store.snapshot = (k₀.acceptedIn events).getLast?.getD initial ∧
    (∀ event cause, k.outcome event = .error cause → (k.step event).store = k.store) ∧
    (∀ candidate, (∃ next, k.store.reload candidate = .ok next) ↔ candidate.isValid) ∧
    ((∃ next, k.store.poll k.content = .ok (next, true)) ↔ k₀.store.followsSource ∧
      ∃ w, k.document? = some w ∧ w.isValid ∧ (k.store.snapshot == w) = false) ∧
    (∀ next, k.store.poll k.content = .ok (next, true) → k.document? = some next.snapshot) ∧
    ((∃ next, k.store.poll k.content = .ok (next, false)) ↔ k₀.store.followsSource = false ∨
      ∃ w, k.document? = some w ∧ (k.store.snapshot == w) = true) := by
  obtain ⟨hsnapshot, hinitial⟩ := hopened.snapshot
  obtain ⟨hfollows, hvalid, hlast⟩ := run_store events (hsnapshot ▸ hinitial)
  rw [hrun] at hfollows hvalid hlast
  refine ⟨hvalid, hsnapshot ▸ hlast, ?_, ?_, ?_⟩
  · intro event cause herror
    simp [step, herror]
  · intro candidate
    by_cases hcandidate : candidate.isValid <;> simp [WeightStore.reload, hcandidate]
  · rw [← hfollows]
    exact ⟨k.store.exists_poll_true_iff, fun next => WeightStore.document_of_poll_true,
      WeightStore.exists_poll_false_iff hvalid⟩

theorem parse?_empty : Weights.parse? "" = none := by
  have hdocument : Reading.document "" = ⟨.broken, false⟩ := by
    simp [Reading.document, Reading.Scan.tokens, Reading.Scan.value]
  rw [Weights.parse?, Reading.ofText, hdocument]
  rfl

/-- An empty document is polled and weights out of bounds are offered, before weights in bounds are
and the document is lost. -/
def mishaps : List Event :=
  [.rewrite (some ""), .poll, .reload (Session.keywordsAt 20), .reload (Session.keywordsAt 5),
    .rewrite none, .tick]

theorem serves_last_accepted_amid_mishaps :
    ((run ⟨.following none, none⟩ mishaps).store.snapshot).isValid ∧
      (run ⟨.following none, none⟩ mishaps).store.snapshot = Session.keywordsAt 5 := by
  obtain ⟨hvalid, hsnapshot, -⟩ := serves_last_accepted (.following none)
    (rfl : run ⟨.following none, none⟩ mishaps = _)
  have hout : (Session.keywordsAt 20).isValid = false := by decide +kernel
  have hin : (Session.keywordsAt 5).isValid = true := by decide +kernel
  have haccepted : acceptedIn ⟨.following none, none⟩ mishaps = [Session.keywordsAt 5] := by
    simp [mishaps, acceptedIn, accepted?, outcome, step, candidate?, WeightStore.following,
      WeightStore.poll, WeightStore.reload, Weights.load, parse?_empty, hout, hin]
  rw [haccepted] at hsnapshot
  exact ⟨hvalid, hsnapshot⟩

end Keeper

end HybridSearch

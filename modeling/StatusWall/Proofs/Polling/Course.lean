import Mathlib.Data.List.Chain
import StatusWall.Proofs.Polling.Numbers
import StatusWall.Proofs.Polling.Turn

/-!
# The course of polls

How a poll comes out is up to the source. A poll begins with the question for the object's state, and
from then on it has its time limit; if the state comes in time, the second question goes out; if that is
answered before the limit is over, too, the poll found what the two answers say. Everything else is a
failure: the one that was answered, or that it took too long. `Course` says so of a list of turns, by
the answers of the source and the times of the turns alone, without a look at where the task stood.

A task that takes its turns one after the other has such a course (`Linked.course`). What it needs is
that each turn finds the task as the turn before left it, but for what the task heard in between
(`Linked`); then each of the rules is a matter of two neighbours.
-/

namespace StatusWall

namespace Turn

/-- The turn puts the first question of a poll. -/
def Begins (u : Turn) : Prop := .askState u.task.target ∈ u.acts

instance (u : Turn) : Decidable u.Begins := inferInstanceAs (Decidable (_ ∈ _))

/-- What the source has to say to the first question at the time of the turn. -/
def stateAnswer (u : Turn) : Answer ObjectState := u.source.objectState u.time u.task.target

/-- What the source has to say to the second question at the time of the turn. -/
def wordAnswer (u : Turn) (slug : String) : Answer AlertConfig := u.source.alertConfig u.time slug

end Turn

namespace PollTask

/-- A task that was not cancelled takes `u` after `first`, which began a poll. -/
structure Follows (us : List Turn) (first u : Turn) : Prop where
  next : [first, u] <:+: us
  begins : first.Begins
  running : u.task.cancelled = false

/-- A task that was not cancelled takes `u` at last in a poll that began with `first` and found the
object's state in time; in between it took `second`. -/
structure FollowsFound (config : PollConfig) (us : List Turn) (first second u : Turn)
    (found : ObjectState) : Prop where
  next : [first, second, u] <:+: us
  begins : first.Begins
  inTime : first.stateAnswer.delay ≤ config.timeout
  found : first.stateAnswer.outcome = .ok found
  running : u.task.cancelled = false

/-- **How polls come out**, by what the source answers. The time limit counts from the first question,
and what comes at its very end is in time. -/
structure Course (config : PollConfig) (us : List Turn) : Prop where
  configured : ∀ u ∈ us, u.config = config
  begun {u : Turn} : u ∈ us → u.Begins → u.ending? = none
  /-- The first turn begins a poll. -/
  first {u : Turn} : us.head? = some u → u.task.cancelled = false → u.Begins
  /-- After a poll the next one begins, unless nobody took the report; and none begins before. -/
  next {v u : Turn} : [v, u] <:+: us → u.task.cancelled = false →
    (u.Begins ↔ v.ending?.isSome = true ∧ v.listening = true)
  /-- Without a state in time the poll is given up. -/
  stateLate {first u : Turn} : Follows us first u →
    config.timeout < first.stateAnswer.delay → u.ending? = some (.error (overdue config))
  /-- Without a state the poll failed. -/
  stateFailed {first u : Turn} {e : FetchError} : Follows us first u →
    first.stateAnswer.delay ≤ config.timeout → first.stateAnswer.outcome = .error e →
      u.ending? = some (.error e)
  /-- With a state in time the second question is put, under the slug from the beginning. -/
  stateFound {first u : Turn} {found : ObjectState} : Follows us first u →
    first.stateAnswer.delay ≤ config.timeout → first.stateAnswer.outcome = .ok found →
      u.ending? = none ∧ .askConfig first.task.slug ∈ u.acts
  /-- Without the board's word in time the poll is given up. -/
  wordLate {first second u : Turn} {found : ObjectState} :
    FollowsFound config us first second u found →
    first.time + config.timeout < second.time + (second.wordAnswer first.task.slug).delay →
      u.ending? = some (.error (overdue config))
  /-- Without the board's word the poll failed. -/
  wordFailed {first second u : Turn} {found : ObjectState} {e : FetchError} :
    FollowsFound config us first second u found →
    second.time + (second.wordAnswer first.task.slug).delay ≤ first.time + config.timeout →
    (second.wordAnswer first.task.slug).outcome = .error e → u.ending? = some (.error e)
  /-- With both answers in time the poll is answered. -/
  answered {first second u : Turn} {found : ObjectState} {word : AlertConfig} :
    FollowsFound config us first second u found →
    second.time + (second.wordAnswer first.task.slug).delay ≤ first.time + config.timeout →
    (second.wordAnswer first.task.slug).outcome = .ok word → u.ending? = some (.ok (found, word))

end PollTask

/-! ## One turn -/

namespace Turn

variable (u : Turn)

/-- What begins a poll is a turn that was due. -/
theorem begins_iff :
    u.Begins ↔ u.task.cancelled = false ∧ ∃ due, u.task.phase = .waiting due := by
  unfold Begins acts
  rcases u.task.step_cases u.config u.source u.listening u.time with
    ⟨hc, -, h⟩ | ⟨hc, -, due, hp, h⟩ | ⟨-, -, _, _, _, _, _, hp, h⟩ | ⟨-, nextDue, found, he, h⟩ |
    ⟨-, -, hp, h⟩
  · simp [h, hc]
  · simp [h, hc, hp]
  · simp [h, hp]
  · have hp : ¬ ∃ due, u.task.phase = .waiting due := by
      rintro ⟨due, hp⟩
      unfold PollTask.ending? at he
      rw [hp] at he
      split at he <;> cases he
    rw [h, PollTask.finish_eq]
    refine iff_of_false (fun hmem => ?_) fun hw => hp hw.2
    cases (u.task.observed found).2 <;> cases hl : u.listening <;> simp [hl] at hmem
  · simp [h, hp]

theorem ending?_of_begins {u : Turn} (h : u.Begins) : u.ending? = none := by
  obtain ⟨hc, due, hp⟩ := u.begins_iff.mp h
  unfold ending? PollTask.ending?
  simp [hc, hp]

/-- A turn leaves the next one to wait for if it ended a poll and somebody took the report. -/
theorem after_waiting_iff :
    (∃ due, u.after.phase = .waiting due) ↔ u.ending?.isSome = true ∧ u.listening = true := by
  unfold after ending?
  rcases u.task.step_cases u.config u.source u.listening u.time with
    ⟨-, he, h⟩ | ⟨-, he, due, hp, h⟩ | ⟨-, he, _, _, _, _, _, hp, h⟩ | ⟨-, nextDue, found, he, h⟩ |
    ⟨-, he, hp, h⟩
  case inr.inr.inr.inl =>
    rw [he, h, PollTask.finish_eq]
    cases hl : u.listening <;> simp
  all_goals simp [he, h]
  -- A task that stopped stays where it is.
  simp [hp]

variable {u}

/-- The first question of a poll sets the time limit. -/
theorem after_phase_of_begins (h : u.Begins) :
    ∃ nextDue, u.after.phase = .askedState nextDue (u.time + u.config.timeout) u.task.slug
      (u.time + u.stateAnswer.delay) u.stateAnswer.outcome := by
  obtain ⟨hc, due, hp⟩ := u.begins_iff.mp h
  refine ⟨u.config.nextTurn due u.time, ?_⟩
  unfold after PollTask.step
  rw [if_neg (Bool.eq_false_iff.mp hc), hp]
  rfl

/-- With a state in time the second question is put, and the time limit stays. -/
theorem asks_of_found {nextDue deadline ready : Nat} {slug : String} {found : ObjectState}
    (hc : u.task.cancelled = false)
    (hp : u.task.phase = .askedState nextDue deadline slug ready (.ok found))
    (inTime : ready ≤ deadline) :
    u.ending? = none ∧ .askConfig slug ∈ u.acts ∧
      u.after.phase = .askedConfig nextDue deadline found (u.time + (u.wordAnswer slug).delay)
        (u.wordAnswer slug).outcome := by
  have hc : ¬ u.task.cancelled = true := Bool.eq_false_iff.mp hc
  have inTime : ¬ deadline < ready := Nat.not_lt.mpr inTime
  refine ⟨?_, ?_, ?_⟩
  · unfold ending? PollTask.ending?
    simp only [hp, hc, inTime, if_false]
    rfl
  · unfold acts PollTask.step
    simp [hp, hc, inTime]
  · unfold after PollTask.step
    simp only [hp, hc, inTime, if_false]
    rfl

end Turn

/-! ## One turn after the other -/

namespace PollTask

/-- The turns a task took so far: the first was due at some time, each found the task as the one before
it left it, but for what the task heard in between, and so does the task now. -/
structure Linked (t : PollTask) (us : List Turn) : Prop where
  fresh : us = [] → ∃ due, t.phase = .waiting due
  first {u : Turn} : us.head? = some u → ∃ due, u.task.phase = .waiting due
  neighbours : us.IsChain fun v u => v.after.Heard u.task
  last {u : Turn} : us.getLast? = some u → u.after.Heard t

namespace Linked

theorem new (id : PollerId) (widget : WidgetId) (target : CheckTarget) (slug : String)
    (policy : SoundPolicy) (now : Nat) : Linked (.new id widget target slug policy now) [] where
  fresh _ := ⟨now, rfl⟩
  first h := nomatch h
  neighbours := .nil
  last h := nomatch h

theorem heard {t t' : PollTask} {us : List Turn} (h : t.Linked us) (ht : t.Heard t') :
    t'.Linked us where
  fresh hnil := by
    rw [ht.phase]
    exact h.fresh hnil
  first := h.first
  neighbours := h.neighbours
  last hu := (h.last hu).trans ht

/-- One turn more. -/
theorem turn {us : List Turn} {u : Turn} (h : u.task.Linked us) : u.after.Linked (us ++ [u]) where
  fresh hnil := absurd hnil (List.append_ne_nil_of_right_ne_nil us (List.cons_ne_nil u []))
  first {v} hv := by
    cases us with
    | nil =>
      cases hv
      exact h.fresh rfl
    | cons w us => exact h.first hv
  neighbours := by
    refine List.isChain_append.mpr ⟨h.neighbours, .singleton u, fun v hv w hw => ?_⟩
    cases hw
    exact h.last hv
  last {v} hv := by
    rw [List.getLast?_concat] at hv
    cases hv
    exact .refl u.after

section Course

variable {t : PollTask} {us : List Turn} (h : t.Linked us)

include h

/-- A turn finds what the turn before it left, but for what the task heard in between. -/
theorem between {v u : Turn} (next : [v, u] <:+: us) : v.after.Heard u.task := by
  have heard := List.isChain_pair.mp <| List.IsChain.infix h.neighbours next
  exact heard

/-- A task that runs was running before. -/
theorem running {v u : Turn} (next : [v, u] <:+: us) (hc : u.task.cancelled = false) :
    v.task.cancelled = false := by
  rw [← v.after_cancelled]
  cases hv : v.after.cancelled with
  | false => rfl
  | true => exact absurd ((h.between next).cancelled hv) (by rw [hc]; exact Bool.false_ne_true)

/-- The turn after the first question of a poll. -/
theorem askedState {config : PollConfig} (configured : ∀ u ∈ us, u.config = config) {first u : Turn}
    (poll : Follows us first u) :
    ∃ nextDue, u.task.phase = .askedState nextDue (first.time + config.timeout) first.task.slug
      (first.time + first.stateAnswer.delay) first.stateAnswer.outcome := by
  have hconfig := configured first (poll.next.subset List.mem_cons_self)
  rw [(h.between poll.next).phase, ← hconfig]
  exact Turn.after_phase_of_begins poll.begins

/-- The turn after the second question. -/
theorem askedConfig {config : PollConfig} (configured : ∀ u ∈ us, u.config = config)
    {first second u : Turn} {found : ObjectState}
    (poll : FollowsFound config us first second u found) :
    ∃ nextDue, u.task.phase = .askedConfig nextDue (first.time + config.timeout) found
      (second.time + (second.wordAnswer first.task.slug).delay)
      (second.wordAnswer first.task.slug).outcome := by
  have next₁ : [first, second] <:+: us := .trans ⟨[], [u], rfl⟩ poll.next
  have next₂ : [second, u] <:+: us := .trans ⟨[first], [], rfl⟩ poll.next
  have running := h.running next₂ poll.running
  obtain ⟨nextDue, hp⟩ := h.askedState configured ⟨next₁, poll.begins, running⟩
  rw [poll.found] at hp
  rw [(h.between next₂).phase]
  exact ⟨nextDue, (Turn.asks_of_found running hp (by have := poll.inTime; omega)).2.2⟩

/-- **Linked turns have the course** that the source's answers give them. -/
theorem course {config : PollConfig} (configured : ∀ u ∈ us, u.config = config) :
    Course config us where
  configured := configured
  begun _ begins := Turn.ending?_of_begins begins
  first hu hc := (Turn.begins_iff _).mpr ⟨hc, h.first hu⟩
  next {v u} next hc := by
    rw [u.begins_iff, ← v.after_waiting_iff, (h.between next).phase]
    exact and_iff_right hc
  stateLate {first u} poll late := by
    obtain ⟨nextDue, hp⟩ := h.askedState configured poll
    have hconfig := configured u (poll.next.subset (by simp))
    have late : first.time + config.timeout < first.time + first.stateAnswer.delay := by omega
    unfold Turn.ending? ending?
    simp [hp, poll.running, late, hconfig]
  stateFailed {first u e} poll inTime failed := by
    obtain ⟨nextDue, hp⟩ := h.askedState configured poll
    have inTime : ¬ first.time + config.timeout < first.time + first.stateAnswer.delay := by omega
    unfold Turn.ending? ending?
    simp [hp, poll.running, inTime, failed]
  stateFound {first u found} poll inTime hfound := by
    obtain ⟨nextDue, hp⟩ := h.askedState configured poll
    rw [hfound] at hp
    obtain ⟨he, hasks, -⟩ := Turn.asks_of_found poll.running hp (by omega)
    exact ⟨he, hasks⟩
  wordLate {first second u found} poll late := by
    obtain ⟨nextDue, hp⟩ := h.askedConfig configured poll
    have hconfig := configured u (poll.next.subset (by simp))
    unfold Turn.ending? ending?
    simp [hp, poll.running, late, hconfig]
  wordFailed {first second u found e} poll inTime failed := by
    obtain ⟨nextDue, hp⟩ := h.askedConfig configured poll
    unfold Turn.ending? ending?
    simp [hp, poll.running, Nat.not_lt.mpr inTime, failed, Except.map]
  answered {first second u found word} poll inTime hword := by
    obtain ⟨nextDue, hp⟩ := h.askedConfig configured poll
    unfold Turn.ending? ending?
    simp [hp, poll.running, Nat.not_lt.mpr inTime, hword, Except.map]

end Course

end Linked

end PollTask

end StatusWall

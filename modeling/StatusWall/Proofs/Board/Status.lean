import StatusWall.Proofs.Board.Runs

/-!
# What a widget shows

A widget shows a state only while it holds a running task, and then the state is that task's finding
on the object the element shows now: the task asked for this object, was answered, and reported.
Nothing is carried over from another object, however commands, turns and deliveries are interleaved.

The other side is that a report of any other task has no effect. A task that no widget holds, be it
because the widget is gone or because its element showed something else for a moment, is never held
again (`unheld_run`), so its reports never count again, whenever they are delivered.
-/

namespace StatusWall.Chronicle

open StatusWall.Geometry

variable {α : Type} {c : Chronicle α}

/-- The task with a number asked for the state of an object, then for the board's word on alerts,
got both, and reported what it had found. -/
def Fetched (c : Chronicle α) (id : PollerId) (target : CheckTarget) (found : ObjectState) : Prop :=
  ∃ pre asked then' last post word,
    c.turnsOf id = pre ++ [asked, then', last] ++ post ∧
      asked.task.target = target ∧ asked.AskedState (.ok found) ∧
      then'.AskedConfig asked.task.slug (.ok word) ∧
      last.ending? = some (.ok (found, word)) ∧
      last.reports = [last.task.reportOf (.ok (found, word))]

/-- A report comes from the turn that ended the poll, while somebody listened. -/
theorem exists_turn_of_reported {event : PollEvent} (h : event ∈ c.reported) :
    ∃ u outcome, u ∈ c.turnsOf event.poller ∧ u.ending? = some outcome ∧
      event = u.task.reportOf outcome ∧ u.reports = [event] := by
  obtain ⟨u, hu, hevent⟩ := List.mem_flatMap.mp h
  have hreports := u.reports_eq
  rw [hreports] at hevent
  split at hevent
  · next hl =>
    obtain ⟨outcome, hending, rfl⟩ :=
      Option.map_eq_some_iff.mp (Option.mem_toList.mp hevent)
    refine ⟨u, outcome, List.mem_filter.mpr ⟨hu, decide_eq_true rfl⟩, hending, rfl, ?_⟩
    rw [hreports, if_pos hl, hending]
    rfl
  · exact absurd hevent List.not_mem_nil

/-- A report of a state was found on the object of the reporting task. -/
theorem Sound.fetched (hc : c.Sound) {event : PollEvent} (h : event ∈ c.reported) {t : PollTask}
    (ht : c.board.task? event.poller = some t) {state : CheckState} {acknowledged : Bool}
    (hevent : event.outcome = .state state acknowledged) :
    ∃ found, c.Fetched event.poller t.target found ∧
      state = .resolve t.target.objectType found.resultCode ∧
      acknowledged = found.acknowledged := by
  have trail := hc.trail event.poller t ht
  obtain ⟨u, outcome, hu, hending, heq, hreports⟩ := exists_turn_of_reported h
  have htarget := (trail.own u hu).2.2
  rw [heq] at hevent hreports
  cases outcome with
  | error e => cases hevent
  | ok answers =>
    obtain ⟨found, word⟩ := answers
    cases hevent
    obtain ⟨before, post, hsplit⟩ := List.append_of_mem hu
    obtain ⟨pre, asked, then', rfl, hasked, hthen⟩ :=
      trail.answered before u post found word hsplit hending
    have hasked_own : asked ∈ c.turnsOf event.poller := by
      rw [hsplit]
      simp
    refine ⟨found, ⟨pre, asked, then', u, post, word, ?_, (trail.own asked hasked_own).2.2, hasked,
      hthen, hending, hreports⟩, ?_, rfl⟩
    · rw [hsplit]
      simp
    · unfold PollTask.resolved
      rw [htarget]

/-- A widget that holds a task shows the task's object. -/
theorem Sound.unheld_of_other_target (hc : c.Sound) {id : PollerId} {t : PollTask}
    (ht : c.board.task? id = some t)
    (hother : (c.board.element? t.widget).bind Element.target? ≠ some t.target) :
    ¬ c.board.Holds id := by
  rintro ⟨w, hw, h, hp, rfl⟩
  obtain ⟨e, he⟩ := hc.inStep.aligned.exists_entry hw
  obtain ⟨u, hu, hwant⟩ := hc.inStep.served w e he h hp
  cases hu.found.symm.trans ht
  refine hother ?_
  rw [hu.widget, ((Board.mem_entries_iff hc.inStep.nodup).mp he).2, hu.target, Option.bind_some,
    e.target?_eq, hwant]
  rfl

variable [Scalar α]

/-- **What a widget shows is what its present task found on its present object.** And no report of a
task that the widget does not hold has any effect: a task whose object was not its widget's at some
moment is past, whatever the widget shows later. The runs of a board, shutdowns included, are among
the chronicles of which this is said. -/
theorem status_belongs_to_current_target (d : Dashboard α) (polling : Option PollConfig)
    (ms : List (Moment α)) :
    let c := (start d polling).run ms
    (∀ id s, c.board.status? id = some s →
      ∃ w e h t found, c.board.widget? id = some w ∧ c.board.element? id = some e ∧
        w.poller = some h ∧ c.board.task? h.id = some t ∧ t.widget = id ∧
        Board.Running c.board.fleet t ∧
        e.target? = some h.target ∧ t.target = h.target ∧ c.Fetched h.id h.target found ∧
        s = ⟨.resolve h.target.objectType found.resultCode, found.acknowledged⟩ ∧
        s.state ∈ h.target.objectType.severities) ∧
    (∀ event : PollEvent,
      (∀ w h, c.board.widget? event.widget = some w → w.poller = some h → h.id ≠ event.poller) →
        c.board.applyEvent event = (c.board, none)) ∧
    (∀ ms₁, ms₁ <+: ms → ∀ (event : PollEvent) (t : PollTask),
      ((start d polling).run ms₁).board.task? event.poller = some t →
      (((start d polling).run ms₁).board.element? t.widget).bind Element.target? ≠ some t.target →
        c.board.applyEvent event = (c.board, none)) ∧
    ∀ ss, ∃ ms', ((start d polling).run ms').Covers
      (BoardRun.steps { board := (start d polling).board } ss) := by
  intro c
  have hc : c.Sound := (Sound.start d polling).run ms
  have ignored : ∀ event : PollEvent,
      (∀ w h, c.board.widget? event.widget = some w → w.poller = some h → h.id ≠ event.poller) →
        c.board.applyEvent event = (c.board, none) := by
    intro event hother
    rcases c.board.applyEvent_cases event with ⟨-, heq⟩ | ⟨i, w, h, hw, hid, hp, hh, -⟩
    · exact heq
    · have hwidget : c.board.widget? event.widget = some w :=
        (Board.widget?_eq_some_iff hc.inStep.nodup).mpr ⟨List.mem_of_getElem? hw, hid⟩
      exact absurd hh (hother w h hwidget hp)
  refine ⟨fun id s hs => ?_, ignored, fun ms₁ hprefix event t ht hother => ?_, fun ss => ?_⟩
  · obtain ⟨w, hwidget, hstatus⟩ := Option.bind_eq_some_iff.mp hs
    obtain ⟨hw, rfl⟩ := (Board.widget?_eq_some_iff hc.inStep.nodup).mp hwidget
    obtain ⟨h, hp, hreported⟩ := hc.shown w hw s hstatus
    obtain ⟨e, he⟩ := hc.inStep.aligned.exists_entry hw
    obtain ⟨t, ht, hwant⟩ := hc.inStep.served w e he h hp
    obtain ⟨found, hfetched, hstate, hack⟩ := hc.fetched hreported ht.found rfl
    rw [ht.target] at hfetched hstate
    refine ⟨w, e, h, t, found, hwidget, ((Board.mem_entries_iff hc.inStep.nodup).mp he).2, hp,
      ht.found, ht.widget, ht.running, ?_, ht.target, hfetched, ?_, ?_⟩
    · rw [e.target?_eq, hwant]
      rfl
    · rw [← hstate, ← hack]
    · rw [hstate]
      exact CheckState.resolve_mem_severities _ _
  · have hsound₁ : ((start d polling).run ms₁).Sound := (Sound.start d polling).run ms₁
    have hfree : ¬ c.board.Holds event.poller := by
      obtain ⟨ms₂, rfl⟩ := hprefix
      have := unheld_run hsound₁ (fun hnone => nomatch ht.symm.trans hnone)
        (hsound₁.unheld_of_other_target ht hother) ms₂
      rw [← run_append] at this
      exact this
    refine ignored event fun w h hwidget hp heq => hfree ?_
    exact ⟨w, ((Board.widget?_eq_some_iff hc.inStep.nodup).mp hwidget).1, h, hp, heq⟩
  · obtain ⟨ms', hcovers, -⟩ := covers_run d polling ss
    exact ⟨ms', hcovers⟩

/-- The sample's check looked elsewhere for a moment: its old report is worth nothing any more. -/
example :
    (sampleShown.run
      [.command (.setTarget ⟨0⟩ none), .command (.setTarget ⟨0⟩ (some sampleTarget)),
        .deliver 0]).board.status? ⟨0⟩ = none := by
  decide

end StatusWall.Chronicle

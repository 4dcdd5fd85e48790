import StatusWall.Proofs.Board.Runs

/-!
# Tasks mirror the document

A widget has a running task if and only if its element shows an object, and then the task polls that
object, for that widget, under the element's policy and the document's slug. One half is
`Board.InStep`, which every chronicle keeps to; the other half, `Board.Full`, is kept by every
moment that does not take the board down (`full_run`). A board without a fleet never gets one, so
that its widgets never have tasks or states. What holds of the boards of chronicles holds of the
boards of runs, which are among them (`covers_run`).
-/

namespace StatusWall

open StatusWall.Geometry

variable {α : Type}

namespace Board

variable {b : Board α}

/-- What is asked of a widget and its element at all times while the board is mounted. -/
structure Mirrors (b : Board α) (w : Widget) (e : Element α) : Prop where
  /-- There is a running task exactly if the element shows an object. -/
  polled : (∃ h t, w.poller = some h ∧ b.task? h.id = some t ∧ Running b.fleet t) ↔
    e.target?.isSome
  /-- The task is the widget's own, and everything it goes by is the document's. -/
  faithful : ∀ h, w.poller = some h → ∃ t check, b.task? h.id = some t ∧ t.widget = w.id ∧
    e.target? = some t.target ∧ h.target = t.target ∧
    e.checkOptions? = some check ∧ t.policy = check.policy ∧ t.slug = b.dashboard.slug

/-- Every widget mirrors its element. -/
def Mirrored (b : Board α) : Prop :=
  ∀ w ∈ b.widgets, ∃ e, b.element? w.id = some e ∧ b.Mirrors w e

/-- A widget without a task shows nothing. -/
def Quiet (b : Board α) : Prop := ∀ w ∈ b.widgets, w.poller = none → w.status = none

/-- No widget has a task or shows a state. -/
def Bare (b : Board α) : Prop := ∀ w ∈ b.widgets, w.poller = none ∧ w.status = none

theorem InStep.mirrors (hb : b.InStep) (hfull : b.Full) (hfleet : b.fleet ≠ none) {w : Widget}
    {e : Element α} (he : (w, e) ∈ b.entries) : b.Mirrors w e where
  polled := by
    constructor
    · rintro ⟨h, -, hp, -⟩
      obtain ⟨_, -, hwant⟩ := hb.served w e he h hp
      rw [e.target?_eq, hwant]
      rfl
    · intro hsome
      rw [e.target?_eq, Option.isSome_map] at hsome
      have hpoller := hfull hfleet w e he fun hnone => by rw [hnone] at hsome; cases hsome
      obtain ⟨h, hp⟩ := Option.ne_none_iff_exists'.mp hpoller
      obtain ⟨t, ht, -⟩ := hb.served w e he h hp
      exact ⟨h, t, hp, ht.found, ht.running⟩
  faithful h hp := by
    obtain ⟨t, ht, hwant⟩ := hb.served w e he h hp
    obtain ⟨check, hcheck, hpolicy⟩ := e.checkOptions?_of_wanted hwant
    refine ⟨t, check, ht.found, ht.widget, ?_, ht.target.symm, hcheck, hpolicy.symm, ht.slug⟩
    rw [e.target?_eq, hwant, ht.target]
    rfl

/-- Nobody to poll, nothing to hold. -/
theorem InStep.bare (hb : b.InStep) (hfleet : b.fleet = none) : b.Bare := by
  intro w hw
  have hp : w.poller = none := by
    cases hp : w.poller with
    | none => rfl
    | some h =>
      obtain ⟨t, ht⟩ := hb.serves hw hp
      have found := ht.found
      rw [hfleet] at found
      cases found
  exact ⟨hp, hb.idle w hw hp⟩

theorem Full.withFleet (hfull : b.Full) (change : Fleet → Fleet) : (b.withFleet change).Full := by
  intro hf w e he hwant
  refine hfull (fun hnone => hf ?_) w e he hwant
  show b.fleet.map change = none
  rw [hnone]
  rfl

theorem Full.withStatus (hfull : b.Full) {i : Nat} {w : Widget} (hw : b.widgets[i]? = some w)
    (status : Option WidgetStatus) :
    ({ b with widgets := b.widgets.set i { w with status } } : Board α).Full := by
  intro hf v e he hwant
  obtain ⟨j, hv, hej⟩ := mem_entries_iff_getElem?.mp he
  rw [List.getElem?_set] at hv
  by_cases hij : i = j
  · subst hij
    rw [if_pos rfl, if_pos (List.getElem?_eq_some_iff.mp hw).1] at hv
    cases hv
    exact hfull hf w e (mem_entries_iff_getElem?.mpr ⟨i, hw, hej⟩) hwant
  · rw [if_neg hij] at hv
    exact hfull hf v e (mem_entries_iff_getElem?.mpr ⟨j, hv, hej⟩) hwant

end Board

namespace Chronicle

variable {c : Chronicle α}

theorem full_start (d : Dashboard α) (polling : Option PollConfig) :
    (start d polling).board.Full := by
  refine (Board.new_inStep d fun f hf => ?_).2
  obtain ⟨config, -, rfl⟩ := Option.map_eq_some_iff.mp hf
  exact fun i t ht => nomatch ht

/-- A moment that does not take the board down leaves no widget without the task it should have. -/
theorem Effect.full {c' : Chronicle α} {m : Moment α} (e : Effect c m c') (hc : c.Sound)
    (hfull : c.board.Full) (hm : m.takesDown = false) : c'.board.Full := by
  cases e with
  | changed change => exact change.full hc.inStep hfull
  | idled hdown _ _ _ _ => cases hm.symm.trans hdown
  | shown hw _ _ => exact hfull.withStatus hw _
  | turned _ _ _ | retimed _ _ _ | stopped _ => exact hfull.withFleet _

theorem full_run [Scalar α] (hc : c.Sound) (hfull : c.board.Full) {ms : List (Moment α)}
    (hms : ∀ m ∈ ms, m.takesDown = false) : (c.run ms).board.Full := by
  induction ms generalizing c with
  | nil => exact hfull
  | cons m ms ih =>
    have e := effect hc.inStep m
    exact ih (hc.step m) (e.full hc hfull (hms m List.mem_cons_self)) fun m' hm' =>
      hms m' (List.mem_cons_of_mem m hm')

/-- A board polls or does not, once and for all. -/
theorem Effect.fleet {c' : Chronicle α} {m : Moment α} (e : Effect c m c') :
    c'.board.fleet = none ↔ c.board.fleet = none := by
  cases e with
  | changed change => exact Fleet.eq_none_iff_of_told change.told
  | idled _ _ _ _ told => exact Fleet.eq_none_iff_of_told told
  | shown _ _ _ => exact Iff.rfl
  | turned _ _ _ | retimed _ _ _ | stopped _ => exact Option.map_eq_none_iff

theorem fleet_run [Scalar α] (hc : c.Sound) (ms : List (Moment α)) :
    (c.run ms).board.fleet = none ↔ c.board.fleet = none := by
  induction ms generalizing c with
  | nil => exact Iff.rfl
  | cons m ms ih => exact (ih (hc.step m)).trans (effect hc.inStep m).fleet

theorem fleet_start (d : Dashboard α) (polling : Option PollConfig) :
    (start d polling).board.fleet = none ↔ polling = none :=
  Board.new_induction (P := fun b => b.fleet = none ↔ polling = none) d _ Option.map_eq_none_iff
    fun _ _ h change => (Fleet.eq_none_iff_of_told change.told).trans h

variable [Scalar α] (d : Dashboard α) {polling : Option PollConfig}

/-- While nothing takes the board down, its tasks mirror the document. -/
theorem mirrored_run (hpolling : polling ≠ none) {ms : List (Moment α)}
    (hms : ∀ m ∈ ms, m.takesDown = false) : ((start d polling).run ms).board.Mirrored := by
  have hstart : (start d polling).Sound := Sound.start d polling
  have hb := (hstart.run ms).inStep
  have hfull := full_run hstart (full_start d polling) hms
  have hfleet : ((start d polling).run ms).board.fleet ≠ none := fun hnone =>
    hpolling ((fleet_start d polling).mp ((fleet_run hstart ms).mp hnone))
  intro w hw
  obtain ⟨e, he⟩ := hb.aligned.exists_entry hw
  exact ⟨e, ((Board.mem_entries_iff hb.nodup).mp he).2, hb.mirrors hfull hfleet he⟩

theorem bare_run (hpolling : polling = none) (ms : List (Moment α)) :
    ((start d polling).run ms).board.Bare := by
  have hstart : (start d polling).Sound := Sound.start d polling
  have hfleet := (fleet_run hstart ms).mpr ((fleet_start d polling).mpr hpolling)
  exact (hstart.run ms).inStep.bare hfleet

/-- **Tasks mirror the document.** On a board that polls and was not taken down, a widget has a
running task exactly if its element shows an object, and the task goes by the element and the
document. Whatever happened to the board, a widget without a task shows nothing, and on a board that
does not poll no widget ever has a task or a state. -/
theorem tasks_mirror_document (d : Dashboard α) (polling : Option PollConfig)
    (ms : List (Moment α)) (ss : List (Source × RunStep α)) :
    let b := ((start d polling).run ms).board
    let b' := (BoardRun.steps { board := (start d polling).board } ss).board
    (polling ≠ none → (∀ m ∈ ms, m.takesDown = false) → b.Mirrored) ∧
    (polling ≠ none → (∀ s ∈ ss, s.2.takesDown = false) → b'.Mirrored) ∧
    (b.Quiet ∧ b'.Quiet) ∧ (polling = none → b.Bare ∧ b'.Bare) := by
  intro b b'
  obtain ⟨ms', ⟨hboard, -⟩, hdown⟩ := covers_run d polling ss
  have hb' : b' = ((start d polling).run ms').board := hboard.symm
  refine ⟨fun hpolling hms => mirrored_run d hpolling hms, fun hpolling hss => ?_, ⟨?_, ?_⟩,
    fun hpolling => ⟨bare_run d hpolling ms, ?_⟩⟩
  · rw [hb']
    exact mirrored_run d hpolling (hdown hss)
  · exact ((Sound.start d polling).run ms).inStep.idle
  · rw [hb']
    exact ((Sound.start d polling).run ms').inStep.idle
  · rw [hb']
    exact bare_run d hpolling ms'

end Chronicle

end StatusWall

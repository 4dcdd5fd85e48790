import StatusWall.Board.Run
import StatusWall.Proofs.Board.Mount
import StatusWall.Proofs.Polling.Trail

/-!
# Everything that can happen to a board

A chronicle is a board together with every turn its tasks have taken. It goes from moment to moment,
and a moment is as small as can be: one command, one turn of one task, one delivery of one report.
They may come in any order. A turn can be taken at any time, with whatever answers; a report can be
delivered at any time after it was made, any number of times, or never. Taking the board down is cut
up as well, so that turns fall between the cancellations. The larger steps of a `BoardRun` come to
nothing else (`covers_run`).

`Chronicle.Effect` lists what a moment can do, and `effect` says that it does one of these things.
What a turn does to its own task, and that it does nothing to the others, is `task?_takeTurn` and
`turnsOf_takeTurn`.
-/

namespace StatusWall

open StatusWall.Geometry

/-- A board and the turns its tasks took, oldest first. -/
structure Chronicle (α : Type) where
  board : Board α
  turns : List Turn := []

/-- The least that can happen. -/
inductive Moment (α : Type) where
  | command (c : BoardCommand α)
  /-- A task takes a turn. -/
  | turn (id : PollerId) (source : Source) (now : Nat)
  /-- A report is delivered, by its number among all that were made. -/
  | deliver (index : Nat)
  | pass (ms : Nat)
  /-- The board begins to be taken down: no widget holds a task any more. -/
  | letGo
  /-- A task that no widget holds is cancelled. -/
  | stop (id : PollerId)
  /-- Nobody takes the reports any more. -/
  | hangUp

/-- Whether the moment takes tasks away from widgets that should have them. -/
def Moment.takesDown {α : Type} : Moment α → Bool
  | .command .unmount => true
  | .letGo => true
  | _ => false

/-- The turn of a task at a certain time. -/
def Fleet.turn (f : Fleet) (source : Source) (now : Nat) (t : PollTask) : Turn :=
  { config := f.config, source, listening := f.listening, time := now, task := t }

/-- Whether a widget holds the task with a number. -/
def Board.Holds {α : Type} (b : Board α) (id : PollerId) : Prop :=
  ∃ w ∈ b.widgets, ∃ h, w.poller = some h ∧ h.id = id

namespace Chronicle

variable {α : Type}

/-- The turns of one task. -/
def turnsOf (c : Chronicle α) (id : PollerId) : List Turn := c.turns.filter fun u => u.task.id = id

/-- The reports that were made. -/
def reported (c : Chronicle α) : List PollEvent := c.turns.flatMap Turn.reports

/-- The turn that the task with a number takes at a certain time. -/
def turnAt (c : Chronicle α) (id : PollerId) (source : Source) (now : Nat) : Option Turn :=
  c.board.fleet.bind fun f => (f.task? id).map (f.turn source now)

/-- Lets the task with a number take a turn. -/
def takeTurn (c : Chronicle α) (id : PollerId) (source : Source) (now : Nat) : Chronicle α :=
  { board := c.board.withFleet fun f => f.modifyTask id fun t => (f.turn source now t).after
    turns := c.turns ++ (c.turnAt id source now).toList }

/-- Carries a moment out. -/
def step [Scalar α] (c : Chronicle α) : Moment α → Chronicle α
  | .command command => { c with board := (c.board.perform command).1 }
  | .turn id source now => c.takeTurn id source now
  | .deliver index =>
    match c.reported[index]? with
    | none => c
    | some event => { c with board := (c.board.applyEvent event).1 }
  | .pass ms => { c with board := c.board.withFleet fun f => { f with clock := f.clock + ms } }
  | .letGo =>
    { c with
      board :=
        { c.board with
          widgets := c.board.widgets.map Widget.idled
          drag := c.board.drag.cancel } }
  | .stop id =>
    if c.board.widgets.any fun w => w.poller.any fun h => h.id = id then c
    else { c with board := c.board.withFleet (·.cancel id) }
  | .hangUp => { c with board := c.board.withFleet Fleet.close }

/-- Carries moments out one after the other. -/
def run [Scalar α] (c : Chronicle α) (moments : List (Moment α)) : Chronicle α :=
  moments.foldl step c

/-- The board of a document, before anything happened; it polls if it is told how. -/
def start (d : Dashboard α) (polling : Option PollConfig) : Chronicle α :=
  { board := .new d (polling.map fun config => { config }) }

end Chronicle

/-! ## Deliveries -/

namespace Board

variable {α : Type}

/-- **What a delivery is.** A report counts if the widget holds the reporting task; then the widget
shows what was found, and a failure is answered. Otherwise nothing happens at all. -/
theorem applyEvent_cases (b : Board α) (event : PollEvent) :
    ((∀ w ∈ b.widgets, ∀ h, w.poller = some h → w.id = event.widget → h.id ≠ event.poller) ∧
      b.applyEvent event = (b, none)) ∨
    ∃ i w h, b.widgets[i]? = some w ∧ w.id = event.widget ∧ w.poller = some h ∧
      h.id = event.poller ∧
      ((∃ state acknowledged, event.outcome = .state state acknowledged ∧
          b.applyEvent event =
            ({ b with widgets := b.widgets.set i { w with status := some ⟨state, acknowledged⟩ } },
             none)) ∨
        ∃ message, event.outcome = .failed message ∧ b.applyEvent event = (b, some message)) := by
  unfold applyEvent
  simp only
  cases hi : b.widgets.findIdx? fun w =>
      w.id = event.widget ∧ w.poller.map (·.id) = some event.poller with
  | none =>
    refine .inl ⟨fun w hw h hp hid hne => ?_, rfl⟩
    have := List.findIdx?_eq_none_iff.mp hi w hw
    refine of_decide_eq_false this ⟨hid, ?_⟩
    rw [hp, ← hne]
    rfl
  | some i =>
    obtain ⟨hlt, hcurrent, -⟩ := List.findIdx?_eq_some_iff_getElem.mp hi
    obtain ⟨hid, hpoller⟩ := of_decide_eq_true hcurrent
    obtain ⟨h, hp, hh⟩ := Option.map_eq_some_iff.mp hpoller
    have hw : b.widgets[i]? = some b.widgets[i] := List.getElem?_eq_getElem hlt
    refine .inr ⟨i, _, h, hw, hid, hp, hh, ?_⟩
    cases event.outcome with
    | state state acknowledged =>
      refine .inl ⟨state, acknowledged, rfl, ?_⟩
      simp only [modifyWidget]
      rw [modify_eq_set_of_getElem? hw]
    | failed message => exact .inr ⟨message, rfl, rfl⟩

end Board

namespace Chronicle

variable {α : Type} {c : Chronicle α}

theorem step_deliver [Scalar α] (c : Chronicle α) (index : Nat) :
    c.step (.deliver index) = c ∨
      ∃ event ∈ c.reported,
        c.step (.deliver index) = { c with board := (c.board.applyEvent event).1 } := by
  cases hevent : c.reported[index]? with
  | none =>
    left
    unfold step
    simp only [hevent]
  | some event =>
    refine .inr ⟨event, List.mem_of_getElem? hevent, ?_⟩
    unfold step
    simp only [hevent]

theorem step_stop [Scalar α] (c : Chronicle α) (id : PollerId) :
    c.step (.stop id) = c ∨
      (¬ c.board.Holds id ∧
        c.step (.stop id) = { c with board := c.board.withFleet (·.cancel id) }) := by
  unfold step
  simp only
  split
  · exact .inl rfl
  · next hfree =>
    refine .inr ⟨?_, rfl⟩
    rintro ⟨w, hw, h, hp, hid⟩
    refine hfree (List.any_eq_true.mpr ⟨w, hw, ?_⟩)
    rw [hp]
    exact decide_eq_true hid

/-! ## Turns -/

theorem task?_of_turnAt {id : PollerId} {source : Source} {now : Nat} {u : Turn}
    (hu : c.turnAt id source now = some u) : c.board.task? id = some u.task := by
  obtain ⟨f, hf, hu⟩ := Option.bind_eq_some_iff.mp hu
  obtain ⟨t, ht, rfl⟩ := Option.map_eq_some_iff.mp hu
  unfold Board.task?
  rw [hf]
  exact ht

theorem turnAt_eq_some {id : PollerId} {source : Source} {now : Nat} {u : Turn}
    (hu : c.turnAt id source now = some u) : u.source = source ∧ u.time = now := by
  obtain ⟨f, -, hu⟩ := Option.bind_eq_some_iff.mp hu
  obtain ⟨t, -, rfl⟩ := Option.map_eq_some_iff.mp hu
  exact ⟨rfl, rfl⟩

theorem task?_of_turnAt_eq_none {id : PollerId} {source : Source} {now : Nat}
    (hnone : c.turnAt id source now = none) : c.board.task? id = none := by
  unfold turnAt at hnone
  unfold Board.task?
  cases hf : c.board.fleet with
  | none => rfl
  | some f =>
    rw [hf] at hnone
    exact Option.map_eq_none_iff.mp hnone

/-- A turn is seen in its own task only. -/
theorem task?_takeTurn (c : Chronicle α) (id : PollerId) (source : Source) (now : Nat)
    (id' : PollerId) :
    (c.takeTurn id source now).board.task? id' =
      if id' = id then (c.turnAt id source now).map Turn.after else c.board.task? id' := by
  show (c.board.fleet.map _).bind _ = _
  unfold turnAt Board.task?
  cases c.board.fleet with
  | none => split <;> rfl
  | some f =>
    have hid : ∀ t : PollTask, (f.turn source now t).after.id = t.id :=
      fun t => (f.turn source now t).after_id
    show (f.modifyTask id fun t => (f.turn source now t).after).task? id' = _
    by_cases heq : id' = id
    · subst heq
      rw [f.task?_modifyTask_self _ hid, if_pos rfl, Option.bind_some, Option.map_map]
      rfl
    · rw [f.task?_modifyTask_ne hid heq, if_neg heq]
      rfl

/-- A turn is logged under its own task only. -/
theorem turnsOf_takeTurn (c : Chronicle α) (id : PollerId) (source : Source) (now : Nat)
    (id' : PollerId) :
    (c.takeTurn id source now).turnsOf id' =
      c.turnsOf id' ++ if id' = id then (c.turnAt id source now).toList else [] := by
  show (c.turns ++ (c.turnAt id source now).toList).filter _ = _
  rw [List.filter_append]
  congr 1
  cases hu : c.turnAt id source now with
  | none => split <;> rfl
  | some u =>
    obtain ⟨f, -, ht⟩ := Option.bind_eq_some_iff.mp (task?_of_turnAt hu)
    have hid : u.task.id = id := Fleet.task?_id ht
    by_cases heq : id' = id
    · rw [if_pos heq]
      exact List.filter_cons_of_pos (decide_eq_true (hid.trans heq.symm))
    · rw [if_neg heq]
      exact List.filter_cons_of_neg fun h => heq ((of_decide_eq_true h).symm.trans hid)

theorem step_turn [Scalar α] (c : Chronicle α) (id : PollerId) (source : Source) (now : Nat) :
    c.step (.turn id source now) = c.takeTurn id source now := rfl

theorem run_cons [Scalar α] (c : Chronicle α) (m : Moment α) (ms : List (Moment α)) :
    c.run (m :: ms) = (c.step m).run ms := rfl

theorem run_append [Scalar α] (c : Chronicle α) (ms₁ ms₂ : List (Moment α)) :
    c.run (ms₁ ++ ms₂) = (c.run ms₁).run ms₂ := List.foldl_append

/-- A turn that is taken stands at the end of its task's log. -/
theorem turnsOf_step_of_turnAt [Scalar α] {c : Chronicle α} {id : PollerId} {source : Source}
    {now : Nat} {u : Turn} (hu : c.turnAt id source now = some u) :
    (c.step (.turn id source now)).turnsOf id = c.turnsOf id ++ [u] := by
  rw [step_turn, turnsOf_takeTurn, if_pos rfl, hu]
  rfl

/-- A moment is the turn of a task, or leaves the task's log alone. -/
theorem turnsOf_step [Scalar α] (c : Chronicle α) (m : Moment α) (id : PollerId) :
    (c.step m).turnsOf id = c.turnsOf id ∨
      ∃ source now u, m = .turn id source now ∧ c.turnAt id source now = some u ∧
        (c.step m).turnsOf id = c.turnsOf id ++ [u] := by
  cases m with
  | turn id' source now =>
    by_cases hid : id = id'
    · subst hid
      cases hu : c.turnAt id source now with
      | none =>
        rw [step_turn, turnsOf_takeTurn, if_pos rfl, hu]
        exact .inl (List.append_nil _)
      | some u => exact .inr ⟨source, now, u, rfl, hu, turnsOf_step_of_turnAt hu⟩
    · rw [step_turn, turnsOf_takeTurn, if_neg hid]
      exact .inl (List.append_nil _)
  | deliver index =>
    rcases c.step_deliver index with hstep | ⟨event, -, hstep⟩
    all_goals
      rw [hstep]
      exact .inl rfl
  | stop id' =>
    rcases c.step_stop id' with hstep | ⟨-, hstep⟩
    all_goals
      rw [hstep]
      exact .inl rfl
  | command _ | pass _ | letGo | hangUp => exact .inl rfl

/-! ## What a moment can do -/

/-- What a moment makes of a chronicle. -/
inductive Effect (c : Chronicle α) (m : Moment α) : Chronicle α → Prop
  | changed {edit : Widget → Element α → Element α → Prop} {b : Board α} :
      Board.Change edit c.board b → Effect c m { c with board := b }
  /-- The widgets let their tasks go, and the rest of the document stays. -/
  | idled {b : Board α} : m.takesDown = true →
      b.widgets = c.board.widgets.map Widget.idled → b.nextId = c.board.nextId →
      b.dashboard = c.board.dashboard → Option.Rel Fleet.Told c.board.fleet b.fleet →
      Effect c m { c with board := b }
  | turned (id : PollerId) (source : Source) (now : Nat) : Effect c m (c.takeTurn id source now)
  /-- A report of a state reached the widget that holds the reporting task. -/
  | shown {i : Nat} {w : Widget} {h : PollerHandle} {s : WidgetStatus} :
      c.board.widgets[i]? = some w → w.poller = some h →
      { widget := w.id, poller := h.id, outcome := .state s.state s.acknowledged } ∈ c.reported →
      Effect c m
        { c with
          board := { c.board with widgets := c.board.widgets.set i { w with status := some s } } }
  /-- The clock went on, or nobody listens any more. -/
  | retimed {change : Fleet → Fleet} : (∀ f, (change f).tasks = f.tasks) →
      (∀ f, (change f).listening = true → f.listening = true) →
      (∀ f, (change f).config = f.config) →
      Effect c m { c with board := c.board.withFleet change }
  | stopped {id : PollerId} : ¬ c.board.Holds id →
      Effect c m { c with board := c.board.withFleet (·.cancel id) }

/-- **What a moment can do**, on a board that is in step. -/
theorem effect [Scalar α] (hb : c.board.InStep) (m : Moment α) : Effect c m (c.step m) := by
  have nothing : Effect c m c :=
    .changed (Board.Change.refl c.board : Board.Change (fun _ _ _ => False) c.board c.board)
  cases m with
  | command command =>
    by_cases hcommand : command = .unmount
    · subst hcommand
      have told := c.board.unmount_told
      show Effect c _ { c with board := c.board.unmount }
      rw [Board.unmount_eq] at told ⊢
      exact .idled rfl rfl rfl rfl told
    · exact .changed (Board.perform_change hb.aligned hb.idle hcommand)
  | turn id source now => exact .turned id source now
  | deliver index =>
    rcases c.step_deliver index with hstep | ⟨event, hevent, hstep⟩
    · rw [hstep]
      exact nothing
    · rw [hstep]
      rcases c.board.applyEvent_cases event with
        ⟨-, heq⟩ | ⟨i, w, h, hw, hid, hp, hh, ⟨state, acknowledged, hstate, heq⟩ | ⟨_, -, heq⟩⟩
      · rw [heq]
        exact nothing
      · rw [heq]
        obtain ⟨widget, poller, outcome⟩ := event
        subst hid hh hstate
        exact .shown hw hp hevent
      · rw [heq]
        exact nothing
  | pass ms => exact .retimed (fun _ => rfl) (fun _ hl => hl) fun _ => rfl
  | letGo => exact .idled rfl rfl rfl rfl (Fleet.told_rfl _)
  | stop id =>
    rcases c.step_stop id with hstep | ⟨hfree, hstep⟩
    · rw [hstep]
      exact nothing
    · rw [hstep]
      exact .stopped hfree
  | hangUp => exact .retimed (fun _ => rfl) (fun _ hl => nomatch hl) fun _ => rfl

/-! ## A small board -/

/-- The object of `sampleDashboard`. -/
def sampleTarget : CheckTarget := { objectType := .service, filter := "web" }

/-- A document with a single check. -/
def sampleDashboard : Dashboard Float :=
  { title := "Sample", slug := "sample", background := "", width := "", height := "", tags := []
    elements :=
      [{ (Element.default : Element Float) with
          kind := .checkCard
          options := [("filter", .text "web"), ("objectType", .text "service")] }]
    globalMute := false
    sounds := {} }

def sampleConfig : PollConfig := { interval := 1000, timeout := 500, interval_pos := by decide }

/-- A poll of the first task that comes out in a certain way, answered at once. -/
def samplePoll (outcome : Except FetchError ObjectState) : List (Moment Float) :=
  let source : Source :=
    { objectState := fun _ _ => { delay := 0, outcome }
      alertConfig := fun _ _ => { delay := 0, outcome := .ok {} } }
  List.replicate 3 (.turn ⟨0⟩ source 0)

/-- The sample after its check was found critical, and the board was told. -/
def sampleShown : Chronicle Float :=
  (start sampleDashboard (some sampleConfig)).run
    (samplePoll (.ok { resultCode := 2 }) ++ [.deliver 0])

end Chronicle

end StatusWall

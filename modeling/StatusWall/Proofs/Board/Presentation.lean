import StatusWall.Proofs.Board.Alike
import StatusWall.Proofs.Board.Mirror

/-!
# Alerting does not depend on presentation

Two boards are played side by side (`Duet`). Most beats are for both: the same step, with the same
source to answer. In between, either board may be given a command of its own, as long as it presents
(`BoardCommand.Presents`): titles, gestures, choices, backgrounds, mute flags, and entries of the
options that no check reads.

`alerting_ignores_presentation` says that nobody who listens to the two boards can tell them apart,
provided their documents alert alike to begin with: the same questions are asked at the same times,
the same sounds are played, the same reports are made, and the widgets hold the same tasks and show
the same states. There is one exception. Once a board was taken down, its checks have no tasks, and
any update of its options brings the task of the widget in line and so starts one, even if the update
is about something else. A duet in which this happens on one side only goes apart
(`late_update_polls_again`). Before a board is taken down there is no such widget.
-/

namespace StatusWall

open Json StatusWall.Geometry

variable {α : Type}

/-! ## Runs of alike boards -/

namespace Board.Alike

variable {b₁ b₂ : Board α} (h : b₁.Alike b₂)

include h

theorem applyEvent (event : PollEvent) :
    (b₁.applyEvent event).1.Alike (b₂.applyEvent event).1 := by
  unfold Board.applyEvent
  simp only [h.widgets]
  split
  · exact h
  · split
    · exact h.modifyWidget _ _
    · exact h

theorem takeIn (events : List PollEvent) :
    (BoardRun.takeIn b₁ events).1.Alike (BoardRun.takeIn b₂ events).1 := by
  induction events generalizing b₁ b₂ with
  | nil => exact h
  | cons event events ih => exact ih (h.applyEvent event)

/-- Time passes for both in the same way. -/
theorem advance (source : Source) (ms : Nat) :
    (b₁.advance source ms).1.Alike (b₂.advance source ms).1 ∧
      (b₁.advance source ms).2 = (b₂.advance source ms).2 := by
  unfold Board.advance
  rw [h.fleet]
  cases b₂.fleet with
  | none => exact ⟨h, rfl⟩
  | some f => exact ⟨⟨h.widgets, h.nextId, rfl, h.document⟩, rfl⟩

theorem shutdown (source : Source) :
    (b₁.shutdown source).1.Alike (b₂.shutdown source).1 ∧
      (b₁.shutdown source).2 = (b₂.shutdown source).2 := by
  rw [shutdown_eq, shutdown_eq, h.fleet, h.widgets]
  exact ⟨unmount ⟨rfl, h.nextId, rfl, h.document⟩, rfl⟩

end Board.Alike

namespace BoardRun

/-- The boards alert alike, and the same reports were made and delivered. -/
structure Alike (r₁ r₂ : BoardRun α) : Prop where
  board : r₁.board.Alike r₂.board
  reported : r₁.reported = r₂.reported
  delivered : r₁.delivered = r₂.delivered

variable {r₁ r₂ : BoardRun α}

theorem Alike.progress (h : r₁.Alike r₂) {b₁ b₂ : Board α} (hboard : b₁.Alike b₂)
    {os₁ os₂ : List Occurrence} (hos : os₁ = os₂) : (r₁.progress b₁ os₁).Alike (r₂.progress b₂ os₂) :=
  ⟨hboard, congrArg₂ (fun events os => events ++ (Occurrence.reports os).map (·.2)) h.reported hos,
    h.delivered⟩

theorem Alike.handOver (h : r₁.Alike r₂) (events : List PollEvent) {n₁ n₂ : Nat} (hn : n₁ = n₂) :
    (r₁.handOver events n₁).1.Alike (r₂.handOver events n₂).1 :=
  ⟨h.board.takeIn events, h.reported, hn⟩

/-- **The same step does the same to both, and the same happens meanwhile.** -/
theorem Alike.step [Scalar α] (h : r₁.Alike r₂) (source : Source) (s : RunStep α) :
    (r₁.step source s).1.Alike (r₂.step source s).1 ∧
      (r₁.step source s).2.2 = (r₂.step source s).2.2 := by
  have hqueue : r₁.queue = r₂.queue := by
    unfold queue
    rw [h.reported, h.delivered]
  cases s with
  | command c => exact ⟨⟨h.board.perform c, h.reported, h.delivered⟩, rfl⟩
  | wait ms =>
    obtain ⟨hboard, hos⟩ := h.board.advance source ms
    exact ⟨h.progress hboard hos, hos⟩
  | shutdown =>
    obtain ⟨hboard, hos⟩ := h.board.shutdown source
    exact ⟨h.progress hboard hos, hos⟩
  | deliver =>
    cases hq : r₂.queue with
    | nil =>
      simp only [BoardRun.step, hqueue, hq]
      exact ⟨h, trivial⟩
    | cons event rest =>
      simp only [BoardRun.step, hqueue, hq]
      exact ⟨h.handOver [event] (congrArg (· + 1) h.delivered), trivial⟩
  | deliverAll =>
    simp only [BoardRun.step, hqueue]
    exact ⟨h.handOver r₂.queue (congrArg List.length h.reported), trivial⟩
  | redeliver index =>
    cases he : r₂.reported[index]? with
    | none =>
      simp only [BoardRun.step, h.reported, he]
      exact ⟨h, trivial⟩
    | some event =>
      simp only [BoardRun.step, h.reported, he]
      exact ⟨h.handOver [event] h.delivered, trivial⟩

/-- A board that is given a command between two steps. -/
theorem Sound.perform [Scalar α] {r : BoardRun α} (hr : r.Sound) (c : BoardCommand α) :
    BoardRun.Sound { r with board := (r.board.perform c).1 } := by
  obtain ⟨chronicle, hc, hcovers⟩ := hr
  refine ⟨chronicle.step (.command c), hc.step (.command c), ?_, hcovers.reported⟩
  exact congrArg (fun b : Board α => (b.perform c).1) hcovers.board

/-- A command that does not take the board down leaves no widget without the task it should have. -/
theorem Sound.full_perform [Scalar α] {r : BoardRun α} (hr : r.Sound) (hfull : r.board.Full)
    {c : BoardCommand α} (hc : (RunStep.command c).takesDown = false) :
    (r.board.perform c).1.Full := by
  have hne : c ≠ .unmount := by
    rintro rfl
    cases hc
  exact (Board.perform_change hr.inStep.aligned hr.inStep.idle hne).full hr.inStep hfull

/-- So does a step. -/
theorem Sound.full_step [Scalar α] {r : BoardRun α} (hr : r.Sound) (hfull : r.board.Full)
    (source : Source) {s : RunStep α} (hs : s.takesDown = false) :
    (r.step source s).1.board.Full := by
  obtain ⟨c, hc, hcovers⟩ := hr
  obtain ⟨moments, hcovers', hdown⟩ := Chronicle.covers_step source hc hcovers s
  rw [← hcovers'.board]
  exact Chronicle.full_run hc (hcovers.board ▸ hfull) (hdown hs)

end BoardRun

/-! ## Duets -/

/-- A run, and everything its tasks did. -/
structure Voice (α : Type) where
  run : BoardRun α
  heard : List Occurrence := []

/-- Takes a step, and listens. -/
def Voice.step [Scalar α] (v : Voice α) (source : Source) (s : RunStep α) : Voice α :=
  let (run, _, os) := v.run.step source s
  { run, heard := v.heard ++ os }

/-- Two runs side by side. -/
structure Duet (α : Type) where
  left : Voice α
  right : Voice α

/-- Something that happens in a duet. -/
inductive Beat (α : Type) where
  /-- Both take the same step, and the same source answers. -/
  | both (source : Source) (s : RunStep α)
  /-- The left board is given a command. -/
  | left (c : BoardCommand α)
  /-- The right board is given a command. -/
  | right (c : BoardCommand α)

/-- What only one board is given presents. -/
def Beat.Presents : Beat α → Prop
  | .both _ _ => True
  | .left c | .right c => c.Presents

/-- Whether the beat takes the boards down. -/
def Beat.takesDown : Beat α → Bool
  | .both _ s => s.takesDown
  | .left c | .right c => (RunStep.command c).takesDown

namespace Duet

/-- What only one board is given does not wake a check that has no task. -/
def LetsSleep (duet : Duet α) : Beat α → Prop
  | .both _ _ => True
  | .left c => ¬ c.Wakes duet.left.run.board
  | .right c => ¬ c.Wakes duet.right.run.board

/-- The boards of two documents, before anything happened; both poll in the same way, or neither
does. -/
def start (d₁ d₂ : Dashboard α) (polling : Option PollConfig) : Duet α where
  left := { run := { board := (Chronicle.start d₁ polling).board } }
  right := { run := { board := (Chronicle.start d₂ polling).board } }

variable [Scalar α]

/-- Plays a beat. A command asks nothing, so that no source is needed for it. -/
def step (duet : Duet α) : Beat α → Duet α
  | .both source s => { left := duet.left.step source s, right := duet.right.step source s }
  | .left c =>
    let board := (duet.left.run.board.perform c).1
    { duet with left := { duet.left with run := { duet.left.run with board } } }
  | .right c =>
    let board := (duet.right.run.board.perform c).1
    { duet with right := { duet.right with run := { duet.right.run with board } } }

/-- Plays beats one after the other. -/
def play (duet : Duet α) (beats : List (Beat α)) : Duet α := beats.foldl step duet

end Duet

namespace Duet

/-- The two boards alert alike, and what was heard so far is the same. -/
structure InTune (duet : Duet α) : Prop where
  alike : duet.left.run.Alike duet.right.run
  heard : duet.left.heard = duet.right.heard

/-- Every widget of the two boards has the task it should have. -/
def Full (duet : Duet α) : Prop := duet.left.run.board.Full ∧ duet.right.run.board.Full

/-- A beat that presents on full boards wakes nobody. -/
theorem Full.letsSleep {duet : Duet α} (h : duet.Full) (beat : Beat α) : duet.LetsSleep beat := by
  have awake : ∀ {b : Board α}, b.Full → ∀ c : BoardCommand α, ¬ c.Wakes b := by
    intro b hb c hc
    cases c with
    | updateOptions id update =>
      obtain ⟨hfleet, w, e, he, -, hwant, hp⟩ := hc
      exact hb hfleet w e he hwant hp
    | _ => exact hc
  cases beat with
  | both source s => trivial
  | left c => exact awake h.1 c
  | right c => exact awake h.2 c

variable [Scalar α] {duet : Duet α}

/-- Both runs are chronicles. -/
def Sound (duet : Duet α) : Prop := duet.left.run.Sound ∧ duet.right.run.Sound

theorem Sound.step (h : duet.Sound) (beat : Beat α) : (duet.step beat).Sound := by
  cases beat with
  | both source s => exact ⟨BoardRun.Sound.step h.1 source s, BoardRun.Sound.step h.2 source s⟩
  | left c => exact ⟨BoardRun.Sound.perform h.1 c, h.2⟩
  | right c => exact ⟨h.1, BoardRun.Sound.perform h.2 c⟩

/-- Boards stay full while nothing takes them down. -/
theorem Full.step (hfull : duet.Full) (h : duet.Sound) {beat : Beat α}
    (hbeat : beat.takesDown = false) : (duet.step beat).Full := by
  cases beat with
  | both source s =>
    exact ⟨h.1.full_step hfull.1 source hbeat, h.2.full_step hfull.2 source hbeat⟩
  | left c => exact ⟨h.1.full_perform hfull.1 hbeat, hfull.2⟩
  | right c => exact ⟨hfull.1, h.2.full_perform hfull.2 hbeat⟩

/-- **A beat keeps a duet in tune**, if one-sided commands present and wake nobody. -/
theorem InTune.step (htune : duet.InTune) (h : duet.Sound) {beat : Beat α}
    (hpresents : beat.Presents) (hsleep : duet.LetsSleep beat) : (duet.step beat).InTune := by
  cases beat with
  | both source s =>
    obtain ⟨hrun, hos⟩ := htune.alike.step source s
    exact ⟨hrun, congrArg₂ (· ++ ·) htune.heard hos⟩
  | left c =>
    have presented := Board.Alike.presented h.1.inStep hpresents hsleep
    exact ⟨⟨presented.trans htune.alike.board, htune.alike.reported, htune.alike.delivered⟩,
      htune.heard⟩
  | right c =>
    have presented := Board.Alike.presented h.2.inStep hpresents hsleep
    exact ⟨⟨htune.alike.board.trans presented.symm, htune.alike.reported, htune.alike.delivered⟩,
      htune.heard⟩

theorem sound_start (d₁ d₂ : Dashboard α) (polling : Option PollConfig) :
    (start d₁ d₂ polling).Sound :=
  ⟨BoardRun.sound_steps d₁ polling [], BoardRun.sound_steps d₂ polling []⟩

omit [Scalar α] in
theorem full_start (d₁ d₂ : Dashboard α) (polling : Option PollConfig) :
    (start d₁ d₂ polling).Full :=
  ⟨Chronicle.full_start d₁ polling, Chronicle.full_start d₂ polling⟩

omit [Scalar α] in
theorem inTune_start {d₁ d₂ : Dashboard α} (alike : d₁.AlertsAlike d₂)
    (polling : Option PollConfig) : (start d₁ d₂ polling).InTune := by
  have hrange : List.range d₁.elements.length = List.range d₂.elements.length :=
    congrArg List.range alike.elements.length_eq
  refine ⟨⟨Board.Alike.foldl_alike ?_ hrange ⟨rfl, rfl, rfl, alike⟩, rfl, rfl⟩, rfl⟩
  exact fun i b₁ b₂ hb => hb.mountWidget.syncPoller i

theorem play_concat (duet : Duet α) (beats : List (Beat α)) (beat : Beat α) :
    duet.play (beats ++ [beat]) = (duet.play beats).step beat := List.foldl_concat _ _ _ _

theorem Sound.play (h : duet.Sound) (beats : List (Beat α)) : (duet.play beats).Sound := by
  induction beats generalizing duet with
  | nil => exact h
  | cons beat beats ih => exact ih (h.step beat)

theorem Full.play (hfull : duet.Full) (h : duet.Sound) {beats : List (Beat α)}
    (hbeats : beats.any Beat.takesDown = false) : (duet.play beats).Full := by
  induction beats generalizing duet with
  | nil => exact hfull
  | cons beat beats ih =>
    obtain ⟨hbeat, hbeats⟩ := Bool.or_eq_false_iff.mp hbeats
    exact ih (hfull.step h hbeat) (h.step beat) hbeats

/-- **Alerting does not depend on presentation.** Two documents that alert alike are played side by
side, with any commands that present in between on either side; once a beat has taken the boards
down, these commands are not to wake a check that has no task. At every moment everything the tasks
did until then is the same on both sides, questions, sounds and reports with their times, and so are
the tasks and states of all widgets. -/
theorem alerting_ignores_presentation {d₁ d₂ : Dashboard α} (alike : d₁.AlertsAlike d₂)
    (polling : Option PollConfig) (beats : List (Beat α))
    (presents : ∀ beat ∈ beats, beat.Presents)
    (asleep : ∀ pre beat post, beats = pre ++ beat :: post → pre.any Beat.takesDown = true →
      ((start d₁ d₂ polling).play pre).LetsSleep beat) :
    ∀ played, played <+: beats →
      let duet := (start d₁ d₂ polling).play played
      duet.left.heard = duet.right.heard ∧
        duet.left.run.reported = duet.right.run.reported ∧
        duet.left.run.board.widgets = duet.right.run.board.widgets := by
  have tune : ∀ played, played <+: beats → ((start d₁ d₂ polling).play played).InTune := by
    intro played
    induction played using List.reverseRecOn with
    | nil => exact fun _ => inTune_start alike polling
    | append_singleton pre beat ih =>
      rintro ⟨post, rfl⟩
      have hpre : pre <+: pre ++ [beat] ++ post := ⟨[beat] ++ post, by simp⟩
      have sound := (sound_start d₁ d₂ polling).play pre
      rw [play_concat]
      refine (ih hpre).step sound (presents beat (by simp)) ?_
      cases hdown : pre.any Beat.takesDown with
      | false => exact ((full_start d₁ d₂ polling).play (sound_start d₁ d₂ polling) hdown).letsSleep beat
      | true => exact asleep pre beat post (by simp) hdown
  intro played hplayed
  obtain ⟨⟨board, reported, -⟩, heard⟩ := tune played hplayed
  exact ⟨heard, reported, board.widgets⟩

/-- The sample, presented otherwise. -/
def repaintedDashboard : Dashboard Float :=
  { Chronicle.sampleDashboard with
    title := "Repainted"
    globalMute := true
    elements :=
      [{ (Element.default : Element Float) with
          kind := .checkLine
          title := "Line"
          options :=
            Fields.put [("filter", .text "web"), ("objectType", .text "service")] "fontSize"
              (.number (.natural 12)) }] }

/-- A source that answers at once and finds nothing wrong. -/
def calmSource : Source where
  objectState _ _ := { delay := 0, outcome := .ok { resultCode := 0 } }
  alertConfig _ _ := { delay := 0, outcome := .ok {} }

/-- The sample and its repainted twin, with edits of one or the other before and after both are
unmounted. -/
theorem repainted_sample_alerts_alike :
    Chronicle.sampleDashboard.AlertsAlike repaintedDashboard ∧
      let beats : List (Beat Float) :=
        [.both calmSource (.wait 1500), .both calmSource .deliverAll,
         .left (.updateOptions ⟨0⟩ [("fontSize", .number (.natural 22))]),
         .both calmSource (.command .unmount), .right (.retitleElement ⟨0⟩ "Line 2"),
         .both calmSource (.wait 1500)]
      let duet := (start Chronicle.sampleDashboard repaintedDashboard
        (some Chronicle.sampleConfig)).play beats
      duet.left.heard = duet.right.heard ∧
        duet.left.run.reported = duet.right.run.reported ∧
        duet.left.run.board.widgets = duet.right.run.board.widgets := by
  have alike : Chronicle.sampleDashboard.AlertsAlike repaintedDashboard := by
    refine ⟨rfl, .cons ⟨rfl, fun key hkey => ?_⟩ .nil⟩
    show Fields.get? [("filter", .text "web"), ("objectType", .text "service")] key = Fields.get?
      (Fields.put [("filter", .text "web"), ("objectType", .text "service")] "fontSize" _) key
    rw [Fields.get?_put, if_neg]
    rintro rfl
    exact absurd hkey (by decide)
  refine ⟨alike, alerting_ignores_presentation alike _ _ ?_ ?_ _ (List.prefix_refl _)⟩
  · simp only [List.forall_mem_cons, Beat.Presents, BoardCommand.Presents, true_and]
    exact ⟨by decide, List.forall_mem_nil _⟩
  · rintro (_ | ⟨_, _ | ⟨_, _ | ⟨_, _ | ⟨_, _ | ⟨_, _ | ⟨_, pre⟩⟩⟩⟩⟩⟩) beat post hsplit hdown
    -- Nothing is taken down before the fourth beat, and the two after it wake nobody.
    case nil | cons.nil | cons.cons.nil | cons.cons.cons.nil =>
      cases hsplit
      cases hdown
    · cases hsplit
      exact id
    · cases hsplit
      trivial
    · simp at hsplit

/-- The same edit of the same document, of an option that no check reads, polls again on the one
side where it is made, because both boards were unmounted before. -/
theorem late_update_polls_again :
    let beats : List (Beat Float) :=
      [.both calmSource (.command .unmount),
       .left (.updateOptions ⟨0⟩ [("fontSize", .number (.natural 22))]),
       .both calmSource (.wait 0)]
    let duet := (start Chronicle.sampleDashboard Chronicle.sampleDashboard
      (some Chronicle.sampleConfig)).play beats
    (∀ beat ∈ beats, beat.Presents) ∧ duet.left.heard ≠ duet.right.heard := by
  let dropped : PollTask :=
    { PollTask.new ⟨0⟩ ⟨0⟩ Chronicle.sampleTarget "sample" {} 0 with cancelled := true }
  let woken : PollTask := .new ⟨1⟩ ⟨0⟩ Chronicle.sampleTarget "sample" {} 0
  -- A new task takes its first turn at once.
  have asks : (woken.advance Chronicle.sampleConfig calmSource true 0 0).2 ≠ [] := by
    rw [PollTask.advance]
    split
    · next hwake => cases hwake
    · next wake hwake =>
      cases hwake
      rw [dif_pos (show max 0 0 ≤ 0 from Nat.le_refl 0)]
      exact fun h => List.cons_ne_nil _ _ (List.append_eq_nil_iff.mp h).1
  have left :
      (Fleet.advance { config := Chronicle.sampleConfig, tasks := [dropped, woken] } calmSource 0).2 ≠
        [] := fun h =>
    asks (List.map_eq_nil_iff.mp
      (List.flatMap_eq_nil_iff.mp h (woken.id, woken.advance _ calmSource true 0 0) (.tail _ (.head _))))
  have right :
      (Fleet.advance { config := Chronicle.sampleConfig, tasks := [dropped] } calmSource 0).2 = [] := by
    refine List.eq_nil_iff_forall_not_mem.mpr fun o ho => ?_
    obtain ⟨t, ht, -, hawake⟩ := Fleet.exists_task_of_mem_advance ho
    cases List.mem_singleton.mp ht
    cases hawake
  refine ⟨?_, fun heard => left (heard.trans right)⟩
  simp only [List.forall_mem_cons, Beat.Presents, BoardCommand.Presents, true_and]
  exact ⟨by decide, List.forall_mem_nil _⟩

end Duet

end StatusWall

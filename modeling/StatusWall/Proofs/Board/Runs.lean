import StatusWall.Proofs.Board.Sound

/-!
# Runs are chronicles

A run takes larger steps than a chronicle: waiting lets every task take all the turns that are due,
and taking the board down cancels the tasks one after the other and lets the others work meanwhile.
Every step of a run is a list of moments all the same (`covers_step`), so that whatever holds of the
boards of chronicles holds of the boards of runs (`covers_run`).

Waiting is taken apart in two stages: the work of one task up to a time is a list of turns
(`PollTask.exists_turns`), and the work of a fleet is that of its tasks one by one (`run_fleet`).
-/

namespace StatusWall

open StatusWall.Geometry

/-! ## The work of one task -/

namespace PollTask

variable (config : PollConfig) (source : Source) (listening : Bool)

/-- The turns a task takes at certain times, if it hears nothing in between. -/
def turns (t : PollTask) : List Nat → List Turn
  | [] => []
  | now :: times =>
    let u : Turn := { config, source, listening, time := now, task := t }
    u :: u.after.turns times

/-- The task after these turns. -/
def afterTurns (t : PollTask) : List Nat → PollTask
  | [] => t
  | now :: times =>
    let u : Turn := { config, source, listening, time := now, task := t }
    u.after.afterTurns times

theorem afterTurns_id (t : PollTask) (times : List Nat) :
    (t.afterTurns config source listening times).id = t.id := by
  induction times generalizing t with
  | nil => rfl
  | cons now times ih => exact (ih _).trans (Turn.after_id _)

/-- What a task does up to a time is a list of turns. -/
theorem exists_turns (horizon now : Nat) (t : PollTask) :
    ∃ times, (t.advance config source listening horizon now).1 =
        t.afterTurns config source listening times ∧
      (t.advance config source listening horizon now).2.map (·.2) =
        (t.turns config source listening times).flatMap Turn.acts := by
  fun_induction PollTask.advance config source listening horizon now t with
  | case1 now t hwake => exact ⟨[], rfl, rfl⟩
  | case2 now t wake hwake hle next rest ih =>
    obtain ⟨times, hafter, hacts⟩ := ih
    refine ⟨wake :: times, hafter, ?_⟩
    show (next.2.map (wake, ·) ++ rest.2).map (·.2) = next.2 ++ _
    rw [List.map_append, hacts, List.map_map]
    congr 1
    exact List.map_id _
  | case3 now t wake hwake hgt => exact ⟨[], rfl, rfl⟩

end PollTask

namespace Fleet

@[simp] theorem modifyTask_id (f : Fleet) (id : PollerId) : (f.modifyTask id fun t => t) = f := by
  have hmap : (f.tasks.map fun t => if t.id = id then t else t) = f.tasks :=
    (List.map_congr_left fun t _ => ite_self t).trans (List.map_id _)
  unfold modifyTask
  rw [hmap]

theorem modifyTask_modifyTask (f : Fleet) (id : PollerId) {g h : PollTask → PollTask}
    (hg : ∀ t : PollTask, (g t).id = t.id) :
    (f.modifyTask id g).modifyTask id h = f.modifyTask id fun t => h (g t) := by
  unfold modifyTask
  simp only [List.map_map]
  congr 1
  refine List.map_congr_left fun t _ => ?_
  by_cases ht : t.id = id
  · simp only [Function.comp_apply, if_pos ht, hg]
  · simp only [Function.comp_apply, if_neg ht]

/-- Changing the task at a place. -/
theorem modifyTask_of_split {f : Fleet} (hf : f.Numbered) {done rest : List PollTask} {t : PollTask}
    (h : f.tasks = done ++ t :: rest) (change : PollTask → PollTask) :
    f.modifyTask t.id change = { f with tasks := done ++ change t :: rest } := by
  have ht : f.tasks[done.length]? = some t := by
    rw [h, List.getElem?_append_right (Nat.le_refl _), Nat.sub_self]
    rfl
  have hne : ∀ (i : Nat) (x : PollTask), f.tasks[i]? = some x → i ≠ done.length → x.id ≠ t.id := by
    intro i x hx hi hid
    exact hi (congrArg PollerId.number ((hf i x hx).symm.trans (hid.trans (hf _ t ht))))
  have hsame : ∀ xs : List PollTask, (∀ x ∈ xs, x.id ≠ t.id) →
      (xs.map fun x => if x.id = t.id then change x else x) = xs := fun xs hxs =>
    (List.map_congr_left fun x hx => if_neg (hxs x hx)).trans (List.map_id _)
  have hdone : ∀ x ∈ done, x.id ≠ t.id := by
    intro x hx
    obtain ⟨i, hi⟩ := List.mem_iff_getElem?.mp hx
    have hlt := (List.getElem?_eq_some_iff.mp hi).1
    refine hne i x ?_ (Nat.ne_of_lt hlt)
    rw [h, List.getElem?_append_left hlt, hi]
  have hrest : ∀ x ∈ rest, x.id ≠ t.id := by
    intro x hx
    obtain ⟨i, hi⟩ := List.mem_iff_getElem?.mp hx
    refine hne (done.length + (i + 1)) x ?_ (by omega)
    rw [h, List.getElem?_append_right (Nat.le_add_right _ _), Nat.add_sub_cancel_left]
    exact hi
  unfold modifyTask
  rw [h, List.map_append, List.map_cons, if_pos rfl, hsame done hdone, hsame rest hrest]

end Fleet

/-! ## The work of a fleet -/

theorem Board.withFleet_withFleet {α : Type} (b : Board α) (g h : Fleet → Fleet) :
    (b.withFleet g).withFleet h = b.withFleet fun f => h (g f) := by
  unfold withFleet
  simp only [Option.map_map]
  rfl

namespace Chronicle

variable {α : Type} [Scalar α]

/-- The moments of the turns of one task, and what becomes of the chronicle. -/
theorem run_turns {c : Chronicle α} {f : Fleet} (hf : c.board.fleet = some f) {id : PollerId}
    {t : PollTask} (ht : f.task? id = some t) (source : Source) (times : List Nat) :
    c.run (times.map (.turn id source)) =
      { board := c.board.withFleet fun f => f.modifyTask id
          fun t => t.afterTurns f.config source f.listening times
        turns := c.turns ++ t.turns f.config source f.listening times } := by
  induction times generalizing c f t with
  | nil =>
    have hsame : (c.board.withFleet fun f => f.modifyTask id fun t => t) = c.board := by
      unfold Board.withFleet
      simp only [Fleet.modifyTask_id, Option.map_id']
    show c = ⟨c.board.withFleet fun f => f.modifyTask id fun t => t, c.turns ++ []⟩
    rw [hsame, List.append_nil]
  | cons now times ih =>
    have hid : ∀ (f : Fleet) (t : PollTask), (f.turn source now t).after.id = t.id :=
      fun f t => (f.turn source now t).after_id
    have hturn : c.turnAt id source now = some (f.turn source now t) := by
      unfold turnAt
      rw [hf, Option.bind_some, ht]
      rfl
    have hf' : (c.step (.turn id source now)).board.fleet =
        some (f.modifyTask id fun t => (f.turn source now t).after) := by
      show c.board.fleet.map _ = _
      rw [hf]
      rfl
    have ht' : (f.modifyTask id fun t => (f.turn source now t).after).task? id =
        some (f.turn source now t).after := by
      rw [f.task?_modifyTask_self id (hid f), ht]
      rfl
    show (c.step (.turn id source now)).run (times.map (.turn id source)) = _
    rw [ih hf' ht']
    congr 1
    · show (c.board.withFleet _).withFleet _ = c.board.withFleet _
      rw [Board.withFleet_withFleet]
      congr 1
      funext f
      exact f.modifyTask_modifyTask id (hid f)
    · show (c.turns ++ (c.turnAt id source now).toList) ++ _ = c.turns ++ _
      rw [hturn, List.append_assoc]
      rfl

/-- The work of the last tasks of a fleet, one after the other. -/
theorem run_tasks (source : Source) (horizon : Nat) (rest : List PollTask) {c : Chronicle α}
    {f : Fleet} (hf : c.board.fleet = some f) (hn : f.Numbered) {done : List PollTask}
    (htasks : f.tasks = done ++ rest) :
    ∃ ms : List (Moment α), (∀ m ∈ ms, m.takesDown = false) ∧
      (c.run ms).board =
        { c.board with
            fleet := some { f with
              tasks := done ++ rest.map fun t =>
                (t.advance f.config source f.listening horizon f.clock).1 } } ∧
      (∀ event ∈ c.reported, event ∈ (c.run ms).reported) ∧
      ∀ t ∈ rest, ∀ event,
        .report event ∈ (t.advance f.config source f.listening horizon f.clock).2.map (·.2) →
          event ∈ (c.run ms).reported := by
  induction rest generalizing c f done with
  | nil =>
    refine ⟨[], fun _ hm => absurd hm List.not_mem_nil, ?_, fun _ h => h, fun _ ht =>
      absurd ht List.not_mem_nil⟩
    have hsame : ({ f with tasks := done ++ [] } : Fleet) = f := by rw [← htasks]
    show c.board = { c.board with fleet := some { f with tasks := done ++ [] } }
    rw [hsame, ← hf]
  | cons t rest ih =>
    obtain ⟨times, hafter, hacts⟩ :=
      t.exists_turns f.config source f.listening horizon f.clock
    -- The task is found by its number, because its number is its place.
    have ht : f.task? t.id = some t := by
      have hplace : f.tasks[done.length]? = some t := by
        rw [htasks, List.getElem?_append_right (Nat.le_refl _), Nat.sub_self]
        rfl
      rw [Fleet.task?_eq_getElem? hn, hn _ t hplace]
      exact hplace
    have hrun := run_turns hf ht source times
    have hmodified : f.modifyTask t.id
        (fun t => t.afterTurns f.config source f.listening times) =
          { f with tasks := done ++ [t.afterTurns f.config source f.listening times] ++ rest } := by
      rw [Fleet.modifyTask_of_split hn htasks, List.append_assoc]
      rfl
    have hf' : (c.run (times.map (.turn t.id source))).board.fleet =
        some { f with
          tasks := done ++ [t.afterTurns f.config source f.listening times] ++ rest } := by
      rw [hrun, ← hmodified]
      show c.board.fleet.map _ = _
      rw [hf]
      rfl
    have hn' : ({ f with tasks :=
        done ++ [t.afterTurns f.config source f.listening times] ++ rest } : Fleet).Numbered := by
      rw [← hmodified]
      exact hn.modifyTask t.id fun t => t.afterTurns_id f.config source f.listening times
    obtain ⟨ms, hms, hboard, hkept, hnew⟩ := ih hf' hn' rfl
    refine ⟨times.map (.turn t.id source) ++ ms, fun m hm => ?_, ?_, fun event hevent => ?_,
      fun v hv event hevent => ?_⟩
    · rcases List.mem_append.mp hm with hm | hm
      · obtain ⟨now, -, rfl⟩ := List.mem_map.mp hm
        rfl
      · exact hms m hm
    · rw [run_append, hboard, List.map_cons, hafter, hrun]
      exact congrArg (fun tasks => { c.board with fleet := some { f with tasks } })
        (List.append_assoc done _ _)
    · rw [run_append]
      refine hkept event ?_
      rw [hrun]
      show event ∈ (c.turns ++ _).flatMap Turn.reports
      rw [List.flatMap_append]
      exact List.mem_append_left _ hevent
    · rw [run_append]
      rcases List.mem_cons.mp hv with rfl | hv
      · refine hkept event ?_
        rw [hacts] at hevent
        obtain ⟨u, hu, hevent⟩ := List.mem_flatMap.mp hevent
        rw [hrun]
        refine List.mem_flatMap.mpr ⟨u, List.mem_append_right _ hu, ?_⟩
        exact List.mem_filterMap.mpr ⟨_, hevent, rfl⟩
      · exact hnew v hv event hevent

/-- The reports among what happened are known to a chronicle. -/
def Knows (c : Chronicle α) (os : List Occurrence) : Prop :=
  ∀ o ∈ os, ∀ event, o.act = .report event → event ∈ c.reported

/-- The work of a fleet, for a board that has it. -/
theorem run_fleet (source : Source) (ms : Nat) {c : Chronicle α} {f : Fleet}
    (hf : c.board.fleet = some f) (hn : f.Numbered) :
    ∃ moments : List (Moment α), (∀ m ∈ moments, m.takesDown = false) ∧
      (c.run moments).board = { c.board with fleet := some (f.advance source ms).1 } ∧
      (∀ event ∈ c.reported, event ∈ (c.run moments).reported) ∧
      (c.run moments).Knows (f.advance source ms).2 := by
  obtain ⟨moments, hdown, hboard, hkept, hnew⟩ :=
    run_tasks source (f.clock + ms) f.tasks hf hn (List.nil_append _).symm
  refine ⟨moments ++ [.pass ms], fun m hm => ?_, ?_, fun event hevent => ?_,
    fun o ho event hact => ?_⟩
  · rcases List.mem_append.mp hm with hm | hm
    · exact hdown m hm
    · rw [List.mem_singleton.mp hm]
      rfl
  · rw [run_append]
    show (c.run moments).board.withFleet _ = _
    rw [hboard]
    unfold Fleet.advance
    simp only [List.map_map]
    rfl
  · rw [run_append]
    exact hkept event hevent
  · rw [run_append]
    obtain ⟨r, hr, ho⟩ := List.mem_flatMap.mp ho
    obtain ⟨t, ht, rfl⟩ := List.mem_map.mp hr
    obtain ⟨a, ha, rfl⟩ := List.mem_map.mp ho
    exact hnew t ht event (hact ▸ List.mem_map.mpr ⟨a, ha, rfl⟩)

/-! ## Deliveries -/

/-- Delivering reports that were made. -/
theorem run_takeIn (events : List PollEvent) {c : Chronicle α}
    (hevents : ∀ event ∈ events, event ∈ c.reported) :
    ∃ moments : List (Moment α), (∀ m ∈ moments, m.takesDown = false) ∧
      c.run moments = { c with board := (BoardRun.takeIn c.board events).1 } := by
  induction events generalizing c with
  | nil => exact ⟨[], fun _ hm => absurd hm List.not_mem_nil, rfl⟩
  | cons event events ih =>
    obtain ⟨i, hi⟩ := List.mem_iff_getElem?.mp (hevents event List.mem_cons_self)
    have hstep : c.step (.deliver i) = { c with board := (c.board.applyEvent event).1 } := by
      unfold step
      simp only [hi]
    obtain ⟨moments, hdown, hrun⟩ :=
      ih (c := { c with board := (c.board.applyEvent event).1 })
        fun e he => hevents e (List.mem_cons_of_mem event he)
    refine ⟨.deliver i :: moments, fun m hm => ?_, ?_⟩
    · rcases List.mem_cons.mp hm with rfl | hm
      · rfl
      · exact hdown m hm
    · show (c.step (.deliver i)).run moments = _
      rw [hstep, hrun]
      rfl

/-! ## Taking the board down -/

theorem step_stop_of_free {c : Chronicle α} (hfree : ∀ w ∈ c.board.widgets, w.poller = none)
    (id : PollerId) :
    c.step (.stop id) = { c with board := c.board.withFleet (·.cancel id) } := by
  unfold step
  simp only
  refine if_neg fun hany => ?_
  obtain ⟨w, hw, hheld⟩ := List.any_eq_true.mp hany
  rw [hfree w hw] at hheld
  cases hheld

/-- Cancelling the tasks that some widgets held. -/
theorem run_releaseAll (ws : List Widget) {c : Chronicle α}
    (hfree : ∀ w ∈ c.board.widgets, w.poller = none) :
    ∃ moments, c.run moments = { c with board := c.board.withFleet (·.releaseAll ws) } := by
  induction ws generalizing c with
  | nil =>
    refine ⟨[], ?_⟩
    have hsame : c.board.withFleet (·.releaseAll []) = c.board := by
      unfold Board.withFleet
      rw [Fleet.map_releaseAll_nil]
    rw [hsame]
    rfl
  | cons w ws ih =>
    cases hp : w.poller with
    | none =>
      obtain ⟨moments, hrun⟩ := ih hfree
      refine ⟨moments, hrun.trans ?_⟩
      unfold Fleet.releaseAll
      simp only [List.foldl_cons, hp]
      rfl
    | some h =>
      obtain ⟨moments, hrun⟩ :=
        ih (c := { c with board := c.board.withFleet (·.cancel h.id) }) hfree
      refine ⟨.stop h.id :: moments, ?_⟩
      show (c.step (.stop h.id)).run moments = _
      rw [step_stop_of_free hfree, hrun]
      show Chronicle.mk ((c.board.withFleet _).withFleet _) _ = _
      rw [Board.withFleet_withFleet]
      unfold Fleet.releaseAll
      simp only [List.foldl_cons, hp]
      rfl

end Chronicle

/-- One cancellation of a shutdown: the task ends, and the others work meanwhile. -/
def Board.stopNext (source : Source) (r : Option Fleet × List Occurrence) (w : Widget) :
    Option Fleet × List Occurrence :=
  match r.1, w.poller with
  | some fleet, some handle =>
    ((some (fleet.shutdown source handle.id).1), r.2 ++ (fleet.shutdown source handle.id).2)
  | _, _ => r

theorem Board.shutdown_eq {α : Type} (b : Board α) (source : Source) :
    b.shutdown source =
      (({ b with fleet := (b.widgets.foldl (stopNext source) (b.fleet, [])).1 } : Board α).unmount,
       (b.widgets.foldl (stopNext source) (b.fleet, [])).2) := rfl

namespace Chronicle

variable {α : Type} [Scalar α]

/-- The cancellations of a shutdown, one after the other, after the widgets let their tasks go. -/
theorem run_stopNext (source : Source) (ws : List Widget) {c : Chronicle α}
    (hc : c.Sound) (hfree : ∀ w ∈ c.board.widgets, w.poller = none)
    {os : List Occurrence} (hos : c.Knows os) :
    ∃ moments : List (Moment α),
      (c.run moments).board =
        { c.board with fleet := (ws.foldl (Board.stopNext source) (c.board.fleet, os)).1 } ∧
      (∀ event ∈ c.reported, event ∈ (c.run moments).reported) ∧
      (c.run moments).Knows (ws.foldl (Board.stopNext source) (c.board.fleet, os)).2 := by
  induction ws generalizing c os with
  | nil => exact ⟨[], rfl, fun _ h => h, hos⟩
  | cons w ws ih =>
    rw [List.foldl_cons]
    cases hf : c.board.fleet with
    | none =>
      have hnext : Board.stopNext source (none, os) w = (none, os) := rfl
      rw [hnext, ← hf]
      exact ih hc hfree hos
    | some f =>
      cases hp : w.poller with
      | none =>
        have hnext : Board.stopNext source (some f, os) w = (some f, os) := by
          unfold Board.stopNext
          simp only [hp]
        rw [hnext, ← hf]
        exact ih hc hfree hos
      | some h =>
        have hnext : Board.stopNext source (some f, os) w =
            (some ((f.cancel h.id).advance source 0).1,
              os ++ ((f.cancel h.id).advance source 0).2) := by
          unfold Board.stopNext
          simp only [hp]
          rfl
        have hstep := step_stop_of_free hfree h.id
        have hf' : (c.step (.stop h.id)).board.fleet = some (f.cancel h.id) := by
          rw [hstep]
          show c.board.fleet.map _ = _
          rw [hf]
          rfl
        have hn' : (f.cancel h.id).Numbered :=
          (Fleet.Told.refl.cancel h.id).numbered (hc.inStep.numbered f hf)
        obtain ⟨moments₁, -, hboard₁, hkept₁, hnew₁⟩ := run_fleet source 0 hf' hn'
        have hc₁ := (hc.step (.stop h.id)).run moments₁
        have hwidgets : ((c.step (.stop h.id)).run moments₁).board.widgets = c.board.widgets := by
          rw [hboard₁, hstep]
          rfl
        have hreported : (c.step (.stop h.id)).reported = c.reported := by rw [hstep]; rfl
        have hos₁ : ((c.step (.stop h.id)).run moments₁).Knows
            (os ++ ((f.cancel h.id).advance source 0).2) := by
          intro o ho event hact
          rcases List.mem_append.mp ho with ho | ho
          · exact hkept₁ event (hreported ▸ hos o ho event hact)
          · exact hnew₁ o ho event hact
        obtain ⟨moments₂, hboard₂, hkept₂, hnew₂⟩ := ih hc₁ (hwidgets ▸ hfree) hos₁
        have hfleet : ((c.step (.stop h.id)).run moments₁).board.fleet =
            some ((f.cancel h.id).advance source 0).1 := by rw [hboard₁]
        rw [hfleet, ← hnext] at hboard₂ hnew₂
        refine ⟨.stop h.id :: (moments₁ ++ moments₂), ?_⟩
        rw [run_cons, run_append]
        refine ⟨?_, fun event hevent => ?_, ?_⟩
        · rw [hboard₂, hboard₁, hstep]
          rfl
        · exact hkept₂ event (hkept₁ event (hreported ▸ hevent))
        · exact hnew₂

/-! ## Steps -/

/-- A chronicle with the board of a run that knows the run's reports. -/
structure Covers (c : Chronicle α) (r : BoardRun α) : Prop where
  board : c.board = r.board
  reported : ∀ event ∈ r.reported, event ∈ c.reported

omit [Scalar α] in
theorem Covers.progress {c : Chronicle α} {r : BoardRun α} {b : Board α} {os : List Occurrence}
    (hboard : c.board = b) (hreported : ∀ event ∈ r.reported, event ∈ c.reported)
    (hos : c.Knows os) : c.Covers (r.progress b os) where
  board := hboard
  reported event hevent := by
    rcases List.mem_append.mp hevent with hevent | hevent
    · exact hreported event hevent
    · obtain ⟨p, hp, rfl⟩ := List.mem_map.mp hevent
      obtain ⟨o, ho, hact⟩ := List.mem_filterMap.mp (List.mem_mergeSort.mp hp)
      split at hact
      · next e he =>
        cases hact
        exact hos o ho e he
      · cases hact

end Chronicle

/-- Whether a step of a run takes the board down. -/
def RunStep.takesDown {α : Type} : RunStep α → Bool
  | .command .unmount => true
  | .shutdown => true
  | _ => false

namespace Chronicle

variable {α : Type} [Scalar α]

/-- Taking the board down: the widgets let go, the tasks are cancelled one after the other while the
rest works, and then all of them once more. -/
theorem covers_shutdown (source : Source) {c : Chronicle α} (hc : c.Sound) {r : BoardRun α}
    (h : c.Covers r) : ∃ moments, (c.run moments).Covers (r.step source .shutdown).1 := by
  -- The widgets let go first, so that the tasks may be stopped at any time from then on.
  have hfree : ∀ w ∈ (c.step .letGo).board.widgets, w.poller = none := by
    intro w hw
    obtain ⟨v, -, rfl⟩ := List.mem_map.mp hw
    rfl
  have hnothing : (c.step .letGo).Knows [] := fun _ ho => absurd ho List.not_mem_nil
  obtain ⟨moments₁, hboard₁, hkept₁, hknows₁⟩ :=
    run_stopNext source c.board.widgets (hc.step .letGo) hfree hnothing
  have hfree₁ : ∀ w ∈ ((c.step .letGo).run moments₁).board.widgets, w.poller = none := by
    rw [hboard₁]
    exact hfree
  obtain ⟨moments₂, hrun₂⟩ := run_releaseAll c.board.widgets hfree₁
  refine ⟨.letGo :: (moments₁ ++ moments₂), ?_⟩
  rw [run_cons, run_append, hrun₂]
  refine Covers.progress ?_ (fun event hevent => hkept₁ event (h.reported event hevent)) ?_
  · show ((c.step .letGo).run moments₁).board.withFleet _ = (r.board.shutdown source).1
    rw [hboard₁, ← h.board, Board.shutdown_eq, Board.unmount_eq]
    rfl
  · show Knows _ (r.board.shutdown source).2
    rw [← h.board, Board.shutdown_eq]
    exact hknows₁

/-- **Every step of a run is a list of moments**, none of which takes the board down unless the step
does. -/
theorem covers_step (source : Source) {c : Chronicle α} (hc : c.Sound) {r : BoardRun α}
    (h : c.Covers r) (s : RunStep α) :
    ∃ moments, (c.run moments).Covers (r.step source s).1 ∧
      (s.takesDown = false → ∀ m ∈ moments, m.takesDown = false) := by
  have deliveries : ∀ (events : List PollEvent) (delivered : Nat),
      (∀ event ∈ events, event ∈ c.reported) →
      ∃ moments, (c.run moments).Covers (r.handOver events delivered).1 ∧
        ∀ m ∈ moments, m.takesDown = false := by
    intro events delivered hevents
    obtain ⟨moments, hdown, hrun⟩ := run_takeIn events hevents
    refine ⟨moments, ?_, hdown⟩
    rw [hrun, h.board]
    exact ⟨rfl, h.reported⟩
  cases s with
  | command command =>
    refine ⟨[.command command], ⟨?_, h.reported⟩, fun hs m hm => ?_⟩
    · show (c.board.perform command).1 = (r.board.perform command).1
      rw [h.board]
    · rw [List.mem_singleton.mp hm]
      cases command with
      | unmount => cases hs
      | _ => rfl
  | wait ms =>
    show ∃ moments, (c.run moments).Covers
        (r.progress (r.board.advance source ms).1 (r.board.advance source ms).2) ∧ _
    rw [← h.board]
    unfold Board.advance
    cases hf : c.board.fleet with
    | none =>
      refine ⟨[], Covers.progress rfl h.reported ?_, fun _ _ hm => absurd hm List.not_mem_nil⟩
      exact fun _ ho => absurd ho List.not_mem_nil
    | some f =>
      obtain ⟨moments, hdown, hboard, hkept, hknows⟩ :=
        run_fleet source ms hf (hc.inStep.numbered f hf)
      exact ⟨moments, Covers.progress hboard (fun e he => hkept e (h.reported e he)) hknows,
        fun _ => hdown⟩
  | shutdown =>
    obtain ⟨moments, hcovers⟩ := covers_shutdown source hc h
    exact ⟨moments, hcovers, fun hs => nomatch hs⟩
  | deliver =>
    unfold BoardRun.step
    cases hq : r.queue with
    | nil => exact ⟨[], h, fun _ _ hm => absurd hm List.not_mem_nil⟩
    | cons event rest =>
      have hmem : event ∈ r.queue := hq ▸ List.mem_cons_self
      obtain ⟨moments, hcovers, hdown⟩ := deliveries [event] (r.delivered + 1) fun e he => by
        rw [List.mem_singleton.mp he]
        exact h.reported event (List.mem_of_mem_drop hmem)
      exact ⟨moments, hcovers, fun _ => hdown⟩
  | deliverAll =>
    obtain ⟨moments, hcovers, hdown⟩ := deliveries r.queue r.reported.length fun e he =>
      h.reported e (List.mem_of_mem_drop he)
    exact ⟨moments, hcovers, fun _ => hdown⟩
  | redeliver index =>
    cases he : r.reported[index]? with
    | none =>
      have hstep : (r.step source (.redeliver index)).1 = r := by simp only [BoardRun.step, he]
      rw [hstep]
      exact ⟨[], h, fun _ _ hm => absurd hm List.not_mem_nil⟩
    | some event =>
      have hstep : (r.step source (.redeliver index)).1 = (r.handOver [event] r.delivered).1 := by
        simp only [BoardRun.step, he]
      rw [hstep]
      obtain ⟨moments, hcovers, hdown⟩ := deliveries [event] r.delivered fun e' he' => by
        rw [List.mem_singleton.mp he']
        exact h.reported event (List.mem_of_getElem? he)
      exact ⟨moments, hcovers, fun _ => hdown⟩

end Chronicle

/-- Takes steps one after the other, each with what answers the questions meanwhile. -/
def BoardRun.steps {α : Type} [Scalar α] (r : BoardRun α) (ss : List (Source × RunStep α)) :
    BoardRun α :=
  ss.foldl (fun r s => (r.step s.1 s.2).1) r

/-- The steps of a run are a list of moments, which takes the board down only if one of them
does. -/
theorem Chronicle.covers_steps {α : Type} [Scalar α] {c : Chronicle α} (hc : c.Sound)
    {r : BoardRun α} (h : c.Covers r) (ss : List (Source × RunStep α)) :
    ∃ ms : List (Moment α), (c.run ms).Covers (r.steps ss) ∧
      ((∀ s ∈ ss, s.2.takesDown = false) → ∀ m ∈ ms, m.takesDown = false) := by
  induction ss generalizing c r with
  | nil => exact ⟨[], h, fun _ _ hm => absurd hm List.not_mem_nil⟩
  | cons s ss ih =>
    obtain ⟨moments, hcovers, hdown⟩ := covers_step s.1 hc h s.2
    obtain ⟨ms, hcovers', hdown'⟩ := ih (hc.run moments) hcovers
    refine ⟨moments ++ ms, ?_, fun hss m hm => ?_⟩
    · rw [run_append]
      exact hcovers'
    · rcases List.mem_append.mp hm with hm | hm
      · exact hdown (hss s List.mem_cons_self) m hm
      · exact hdown' (fun s' hs' => hss s' (List.mem_cons_of_mem s hs')) m hm

/-- **Runs are chronicles.** What any run makes of the board of a document is the board of a
chronicle that knows every report of the run, and the chronicle takes the board down only if the run
does. -/
theorem Chronicle.covers_run {α : Type} [Scalar α] (d : Dashboard α) (polling : Option PollConfig)
    (ss : List (Source × RunStep α)) :
    ∃ ms : List (Moment α),
      ((start d polling).run ms).Covers
        (BoardRun.steps { board := (start d polling).board } ss) ∧
      ((∀ s ∈ ss, s.2.takesDown = false) → ∀ m ∈ ms, m.takesDown = false) := by
  refine covers_steps (Sound.start d polling) ⟨rfl, fun event hevent => ?_⟩ ss
  exact absurd hevent List.not_mem_nil

namespace BoardRun

variable {α : Type} [Scalar α] {r : BoardRun α}

/-- A run that is a chronicle, as every run from a document is. -/
def Sound (r : BoardRun α) : Prop := ∃ c : Chronicle α, c.Sound ∧ c.Covers r

omit [Scalar α] in
theorem Sound.inStep (hr : r.Sound) : r.board.InStep := by
  obtain ⟨c, hc, hcovers⟩ := hr
  exact hcovers.board ▸ hc.inStep

theorem Sound.step (hr : r.Sound) (source : Source) (s : RunStep α) :
    (r.step source s).1.Sound := by
  obtain ⟨c, hc, hcovers⟩ := hr
  obtain ⟨moments, hcovers', -⟩ := Chronicle.covers_step source hc hcovers s
  exact ⟨_, hc.run moments, hcovers'⟩

theorem Sound.steps (hr : r.Sound) (ss : List (Source × RunStep α)) : (r.steps ss).Sound := by
  induction ss generalizing r with
  | nil => exact hr
  | cons s ss ih => exact ih (hr.step s.1 s.2)

theorem sound_steps (d : Dashboard α) (polling : Option PollConfig)
    (ss : List (Source × RunStep α)) :
    (BoardRun.steps { board := (Chronicle.start d polling).board } ss).Sound := by
  refine Sound.steps ⟨_, Chronicle.Sound.start d polling, rfl, fun event hevent => ?_⟩ ss
  exact absurd hevent List.not_mem_nil

end BoardRun

end StatusWall

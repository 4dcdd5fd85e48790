import StatusWall.Proofs.Board.Restart
import StatusWall.Proofs.Board.Runs
import StatusWall.Proofs.Polling.Silence

/-!
# Letting go of a task

A widget lets go of its task when it is deleted, when its element comes to show another object or
none, and when the board is taken down. Whatever the way, the task is cancelled in the same moment:
`Change.cancelled` is this for one change, and `perform_cancelled_iff` says of a command which tasks
it cancels.

The second half is about taking the board down. `unmount` and `shutdown` cancel every task a widget
holds, leave the same board behind (`TakenDown`), and have nothing left to do a second time.
-/

namespace StatusWall

open StatusWall.Geometry

variable {α : Type}

namespace Board

/-- The task with a number is there and was cancelled. -/
def Cancelled (b : Board α) (id : PollerId) : Prop :=
  ∃ t, b.task? id = some t ∧ t.cancelled = true

/-- The object that a widget shows, if the widget is there and shows one. -/
def shows? (b : Board α) (id : WidgetId) : Option CheckTarget :=
  (b.element? id).bind Element.target?

section

variable {b b' : Board α} {id : PollerId}

theorem cancelled_iff : b.Cancelled id ↔ ∃ f, b.fleet = some f ∧ f.Cancelled id := by
  unfold Cancelled Fleet.Cancelled task?
  constructor
  · rintro ⟨t, ht, hc⟩
    obtain ⟨f, hf, ht⟩ := Option.bind_eq_some_iff.mp ht
    exact ⟨f, hf, t, ht, hc⟩
  · rintro ⟨f, hf, t, ht, hc⟩
    exact ⟨t, by rw [hf]; exact ht, hc⟩

/-- No message revives a task. -/
theorem Cancelled.of_told (h : b.Cancelled id) (hn : b.Numbered)
    (told : Option.Rel Fleet.Told b.fleet b'.fleet) : b'.Cancelled id := by
  obtain ⟨f, hf, hc⟩ := cancelled_iff.mp h
  rw [hf] at told
  generalize hg : b'.fleet = g at told
  cases told with
  | some told => exact cancelled_iff.mpr ⟨_, hg, hc.told (hn f hf) told⟩

/-- The tasks that widgets hold run. -/
theorem InStep.not_holds (hb : b.InStep) (h : b.Cancelled id) : ¬ b.Holds id := by
  rintro ⟨w, hw, k, hk, rfl⟩
  obtain ⟨t, ht⟩ := hb.serves hw hk
  obtain ⟨t', ht', hc⟩ := h
  cases ht.found.symm.trans ht'
  exact Bool.false_ne_true (ht.running.1.symm.trans hc)

/-- A report of a task that no widget holds has no effect. -/
theorem applyEvent_of_not_holds {event : PollEvent} (h : ¬ b.Holds event.poller) :
    b.applyEvent event = (b, none) := by
  rcases b.applyEvent_cases event with ⟨-, heq⟩ | ⟨i, w, k, hw, -, hk, hid, -⟩
  · exact heq
  · exact absurd ⟨w, List.mem_of_getElem? hw, k, hk, hid⟩ h

end

/-! ## Changes -/

section Changes

variable {b b' : Board α} {w : Widget} {h : PollerHandle}

/-- A widget whose task is replaced or taken away had it cancelled. -/
theorem Resync.cancelled {before after : Option Fleet} {slug : String} {w' : Widget} {e : Element α}
    (hn : ∀ f, before = some f → f.Numbered) (sync : Resync before slug w e after w')
    (hp : w.poller = some h) (known : before.bind (·.task? h.id) ≠ none)
    (hlost : w'.poller ≠ some h) : ∃ f, after = some f ∧ f.Cancelled h.id := by
  cases before with
  | none => exact absurd rfl known
  | some f =>
    have released : (f.release w.poller).Cancelled h.id := by
      rw [hp]
      exact Fleet.cancelled_cancel known
    cases sync with
    | kept hp' _ => exact absurd hp hlost
    | stopped _ => exact ⟨_, rfl, released⟩
    | started hf _ _ =>
      cases hf
      have hn' := (f.told_release w.poller).numbered (hn f rfl)
      exact ⟨_, rfl, released.told hn' (Fleet.Told.refl.spawn _ _ _ _)⟩

/-- **A task that its widget lets go of is cancelled.** -/
theorem Change.cancelled {edit : Widget → Element α → Element α → Prop} (hb : b.InStep)
    (change : Change edit b b') (hw : w ∈ b.widgets) (hp : w.poller = some h)
    (hfree : ¬ b'.Holds h.id) : b'.Cancelled h.id := by
  obtain ⟨t, ht⟩ := hb.serves hw hp
  have known : b.task? h.id ≠ none := fun hnone => nomatch ht.found.symm.trans hnone
  have gone : w ∉ b'.widgets := fun hstill => hfree ⟨w, hstill, h, hp, rfl⟩
  obtain ⟨j, hj⟩ := List.mem_iff_getElem?.mp hw
  rw [cancelled_iff]
  cases change with
  | touched widgets | renamed widgets => exact absurd (widgets ▸ hw) gone
  | resynced i v v' _ _ place _ _ widgets _ _ _ sync =>
    by_cases hij : i = j
    · subst hij
      cases place.symm.trans hj
      refine sync.cancelled hb.numbered hp known fun hkept => hfree ⟨v', ?_, h, hkept, rfl⟩
      rw [widgets]
      exact List.mem_set (List.getElem?_eq_some_iff.mp place).1 _
    · refine absurd (List.mem_of_getElem? (i := j) ?_) gone
      rw [widgets, List.getElem?_set_ne hij, hj]
  | mounted _ _ widgets =>
    rw [widgets] at gone
    exact absurd (List.mem_append_left _ hw) gone
  | removed i v place widgets _ _ _ fleet =>
    by_cases hij : i = j
    · subst hij
      cases place.symm.trans hj
      obtain ⟨f, hf, hft⟩ := Option.bind_eq_some_iff.mp ht.found
      refine ⟨f.release w.poller, by rw [fleet, hf]; rfl, ?_⟩
      rw [hp]
      exact Fleet.cancelled_cancel fun hnone => nomatch hft.symm.trans hnone
    · rw [widgets] at gone
      exact absurd (List.mem_eraseIdx_iff_getElem?.mpr ⟨j, Ne.symm hij, hj⟩) gone
  | moved source destination inside widgets =>
    rw [widgets, (moveEntry_perm inside).mem_iff] at gone
    exact absurd hw gone

/-- A task stays with the widget it was started for. -/
theorem holder_id (hb : b.InStep) (hb' : b'.InStep) (told : Option.Rel Fleet.Told b.fleet b'.fleet)
    (hw : w ∈ b.widgets) (hp : w.poller = some h) {v : Widget} (hv : v ∈ b'.widgets)
    {k : PollerHandle} (hk : v.poller = some k) (hid : k.id = h.id) : v.id = w.id ∧ k = h := by
  obtain ⟨t, ht⟩ := hb.serves hw hp
  obtain ⟨t', ht'⟩ := hb'.serves hv hk
  obtain ⟨f, hf, hft⟩ := Option.bind_eq_some_iff.mp ht.found
  obtain ⟨g, hg, hgt⟩ := Option.bind_eq_some_iff.mp ht'.found
  rw [hf, hg] at told
  cases told with
  | some told =>
    obtain ⟨u, hu, heard⟩ := told.old (hb.numbered f hf) hft
    rw [hid, hu] at hgt
    cases hgt
    refine ⟨ht'.widget.symm.trans (heard.widget.trans ht.widget), ?_⟩
    have htarget : k.target = h.target :=
      ht'.target.symm.trans (heard.target.trans ht.target)
    cases k
    cases h
    cases hid
    cases htarget
    rfl

end Changes

end Board

/-! ## Taking the board down -/

namespace Fleet

variable {f : Fleet}

@[simp] theorem releaseAll_idled (f : Fleet) (ws : List Widget) :
    f.releaseAll (ws.map Widget.idled) = f := by
  induction ws with
  | nil => rfl
  | cons w ws ih => exact ih

/-- Every task that one of the widgets holds is cancelled. -/
theorem cancelled_releaseAll (hf : f.Numbered) {ws : List Widget} {w : Widget} (hw : w ∈ ws)
    {h : PollerHandle} (hp : w.poller = some h) (known : f.task? h.id ≠ none) :
    (f.releaseAll ws).Cancelled h.id := by
  induction ws generalizing f with
  | nil => cases hw
  | cons v ws ih =>
    have hn := (f.told_release v.poller).numbered hf
    show ((f.release v.poller).releaseAll ws).Cancelled h.id
    rcases List.mem_cons.mp hw with rfl | hw
    · have released : (f.release w.poller).Cancelled h.id := by
        rw [hp]
        exact cancelled_cancel known
      exact released.told hn (told_releaseAll _ ws)
    · refine ih hn hw ?_
      obtain ⟨t, ht⟩ := Option.ne_none_iff_exists'.mp known
      obtain ⟨t', ht', -⟩ := (f.told_release v.poller).old hf ht
      exact fun hnone => nomatch ht'.symm.trans hnone

end Fleet

namespace Board

/-- What is left of a board that was taken down: no widget holds a task or shows a state, no gesture
runs, and everything else is as it was. -/
structure TakenDown (b b' : Board α) : Prop where
  widgets : b'.widgets = b.widgets.map Widget.idled
  gesture : b'.drag.active = none
  dashboard : b'.dashboard = b.dashboard
  nextId : b'.nextId = b.nextId
  selected : b'.selected = b.selected

theorem unmount_takenDown (b : Board α) : b.TakenDown b.unmount := by
  rw [unmount_eq]
  exact ⟨rfl, rfl, rfl, rfl, rfl⟩

/-- Unmounting cancels what the widgets hold. -/
theorem unmount_cancelled {b : Board α} (hn : b.Numbered) {w : Widget} (hw : w ∈ b.widgets)
    {h : PollerHandle} (hp : w.poller = some h) (known : b.task? h.id ≠ none) :
    b.unmount.Cancelled h.id := by
  rw [unmount_eq, cancelled_iff]
  obtain ⟨t, ht⟩ := Option.ne_none_iff_exists'.mp known
  obtain ⟨f, hf, hft⟩ := Option.bind_eq_some_iff.mp ht
  refine ⟨f.releaseAll b.widgets, by rw [hf]; rfl, ?_⟩
  exact Fleet.cancelled_releaseAll (hn f hf) hw hp fun hnone => nomatch hft.symm.trans hnone

/-- A board on which nobody holds a task and no gesture runs is not changed by unmounting. -/
theorem unmount_of_idled {b : Board α} {ws : List Widget} (hws : b.widgets = ws.map Widget.idled)
    (hdrag : b.drag.active = none) : b.unmount = b := by
  have hwidgets : b.widgets.map Widget.idled = b.widgets := by
    rw [hws, List.map_map]
    exact List.map_congr_left fun _ _ => rfl
  have hfleet : b.fleet.map (·.releaseAll b.widgets) = b.fleet := by
    rw [hws]
    simp
  have hgesture : ({} : Drag) = b.drag := congrArg Drag.mk hdrag.symm
  rw [unmount_eq, hwidgets, hfleet, hgesture]

/-- With nobody to cancel, a shutdown waits for nobody. -/
theorem foldl_stopNext_of_idled (source : Source) (ws : List Widget)
    (r : Option Fleet × List Occurrence) :
    (ws.map Widget.idled).foldl (stopNext source) r = r := by
  induction ws with
  | nil => rfl
  | cons w ws ih =>
    have hnext : stopNext source r w.idled = r := by
      obtain ⟨fleet, os⟩ := r
      cases fleet <;> rfl
    rw [List.map_cons, List.foldl_cons, hnext, ih]

theorem shutdown_of_idled {b : Board α} {ws : List Widget} (hws : b.widgets = ws.map Widget.idled)
    (hdrag : b.drag.active = none) (source : Source) : b.shutdown source = (b, []) := by
  rw [shutdown_eq, hws, foldl_stopNext_of_idled, ← hws]
  exact congrArg (·, []) (unmount_of_idled hws hdrag)

theorem stopNext_of_poller (source : Source) (f : Fleet) (os : List Occurrence) {w : Widget}
    {h : PollerHandle} (hp : w.poller = some h) :
    stopNext source (some f, os) w =
      (some (f.shutdown source h.id).1, os ++ (f.shutdown source h.id).2) := by
  unfold stopNext
  simp only [hp]

/-- What the cancellations of a shutdown do to the tasks. Nobody is forgotten, and who was cancelled
before them does nothing meanwhile. -/
theorem foldl_stopNext (source : Source) (ws : List Widget) {f : Fleet} (hf : f.Numbered)
    (os : List Occurrence) :
    ∃ g os', ws.foldl (stopNext source) (some f, os) = (some g, os ++ os') ∧ g.Numbered ∧
      (∀ id, f.task? id ≠ none → g.task? id ≠ none) ∧
      ∀ id, f.Cancelled id → g.Cancelled id ∧ ∀ o ∈ os', o.poller ≠ id := by
  induction ws generalizing f os with
  | nil =>
    refine ⟨f, [], by rw [List.append_nil]; rfl, hf, fun _ h => h, fun id h => ⟨h, ?_⟩⟩
    exact fun o ho => absurd ho List.not_mem_nil
  | cons w ws ih =>
    rw [List.foldl_cons]
    cases hp : w.poller with
    | none =>
      have hnext : stopNext source (some f, os) w = (some f, os) := by
        unfold stopNext
        simp only [hp]
      rw [hnext]
      exact ih hf os
    | some h =>
      have told : Fleet.Told f (f.cancel h.id) := Fleet.Told.refl.cancel h.id
      have hn : (f.cancel h.id).Numbered := told.numbered hf
      obtain ⟨g, os', heq, hg, known, silent⟩ :=
        ih (f := (f.shutdown source h.id).1) (hn.advance source 0)
          (os ++ (f.shutdown source h.id).2)
      refine ⟨g, (f.shutdown source h.id).2 ++ os', ?_, hg, fun id hid => known id ?_,
        fun id hid => ?_⟩
      · rw [stopNext_of_poller source f os hp, heq, List.append_assoc]
      · obtain ⟨t, ht⟩ := Option.ne_none_iff_exists'.mp hid
        obtain ⟨t', ht', -⟩ := told.old hf ht
        unfold Fleet.shutdown
        rw [Fleet.task?_advance, ht']
        exact Option.some_ne_none _
      · have hcancelled := hid.told hf told
        obtain ⟨hstill, hsilent⟩ := silent id (hcancelled.advance source 0)
        refine ⟨hstill, fun o ho => ?_⟩
        rcases List.mem_append.mp ho with ho | ho
        · exact hcancelled.silent hn ho
        · exact hsilent o ho

/-- **A shutdown leaves the board that unmounting leaves**; only its tasks have come further. -/
theorem shutdown_takenDown (b : Board α) (source : Source) :
    b.TakenDown (b.shutdown source).1 ∧
      (b.shutdown source).1 = { b.unmount with fleet := (b.shutdown source).1.fleet } := by
  rw [shutdown_eq, unmount_eq, unmount_eq]
  exact ⟨⟨rfl, rfl, rfl, rfl, rfl⟩, rfl⟩

/-- A shutdown cancels what the widgets hold, one task after the other, and from its own moment on a
task does nothing. -/
theorem shutdown_cancelled {b : Board α} (hb : b.InStep) (source : Source) {pre post : List Widget}
    {w : Widget} (hsplit : b.widgets = pre ++ w :: post) {h : PollerHandle}
    (hp : w.poller = some h) :
    (b.shutdown source).1.Cancelled h.id ∧
      ∃ os, (b.shutdown source).2 = (pre.foldl (stopNext source) (b.fleet, [])).2 ++ os ∧
        ∀ o ∈ os, o.poller ≠ h.id := by
  have hw : w ∈ b.widgets := by
    rw [hsplit]
    simp
  obtain ⟨t, ht⟩ := hb.serves hw hp
  obtain ⟨f, hf, hft⟩ := Option.bind_eq_some_iff.mp ht.found
  have hn := hb.numbered f hf
  have known : f.task? h.id ≠ none := fun hnone => nomatch hft.symm.trans hnone
  rw [shutdown_eq, hf]
  constructor
  · obtain ⟨g, os, heq, hg, hknown, -⟩ := foldl_stopNext source b.widgets hn []
    rw [heq]
    refine unmount_cancelled (b := { b with fleet := some g }) ?_ hw hp (hknown _ known)
    rintro _ ⟨⟩
    exact hg
  · obtain ⟨g, os₁, hpre, hg, hknown, -⟩ := foldl_stopNext source pre hn []
    have told : Fleet.Told g (g.cancel h.id) := Fleet.Told.refl.cancel h.id
    have hn' : (g.cancel h.id).Numbered := told.numbered hg
    have hcancelled := Fleet.cancelled_cancel (hknown _ known)
    obtain ⟨_, os₂, hpost, -, -, silent⟩ :=
      foldl_stopNext source post (f := (g.shutdown source h.id).1) (hn'.advance source 0)
        (os₁ ++ (g.shutdown source h.id).2)
    rw [List.nil_append] at hpre
    refine ⟨(g.shutdown source h.id).2 ++ os₂, ?_, fun o ho => ?_⟩
    · rw [hsplit, List.foldl_append, List.foldl_cons, hpre, stopNext_of_poller source g os₁ hp,
        hpost, List.append_assoc]
    · rcases List.mem_append.mp ho with ho | ho
      · exact hcancelled.silent hn' ho
      · exact (silent _ (hcancelled.advance source 0)).2 o ho

/-- A board that was taken down is not changed by taking it down again. -/
theorem TakenDown.again {b b' : Board α} (h : b.TakenDown b') (source : Source) :
    b'.unmount = b' ∧ b'.shutdown source = (b', []) :=
  ⟨unmount_of_idled h.widgets h.gesture, shutdown_of_idled h.widgets h.gesture source⟩

/-! ## Commands -/

section Commands

variable {b : Board α} {w : Widget} {h : PollerHandle}

theorem shows?_of_mem_entries (hb : b.InStep) {e : Element α} (he : (w, e) ∈ b.entries) :
    b.shows? w.id = e.target? := by
  unfold shows?
  rw [((mem_entries_iff hb.nodup).mp he).2]
  rfl

/-- A widget that shows something is there. -/
theorem exists_entry_of_shows? {id : WidgetId} (hshows : b.shows? id ≠ none) :
    ∃ w e, (w, e) ∈ b.entries ∧ w.id = id := by
  obtain ⟨target, htarget⟩ := Option.ne_none_iff_exists'.mp hshows
  obtain ⟨e, he, -⟩ := Option.bind_eq_some_iff.mp htarget
  obtain ⟨i, hi, hei⟩ := Option.bind_eq_some_iff.mp he
  obtain ⟨w, hwi, hid⟩ := widget_of_indexOf? hi
  exact ⟨w, e, mem_entries_iff_getElem?.mpr ⟨i, hwi, hei⟩, hid⟩

variable [Scalar α]

/-- A command cancels the task of a widget if the widget does not keep it. -/
theorem perform_cancelled (hb : b.InStep) (c : BoardCommand α) (hw : w ∈ b.widgets)
    (hp : w.poller = some h) (hfree : ¬ (b.perform c).1.Holds h.id) :
    (b.perform c).1.Cancelled h.id := by
  by_cases hc : c = .unmount
  · subst hc
    obtain ⟨t, ht⟩ := hb.serves hw hp
    exact unmount_cancelled hb.numbered hw hp fun hnone => nomatch ht.found.symm.trans hnone
  · exact (perform_change hb.aligned hb.idle hc).cancelled hb hw hp hfree

/-- **Which tasks a command cancels**: those of the widgets that show something else afterwards, be
it another object, no object, or nothing because the widget is gone; and all if the board is
unmounted. -/
theorem perform_cancelled_iff (hb : b.InStep) (c : BoardCommand α) (hw : w ∈ b.widgets)
    (hp : w.poller = some h) :
    (b.perform c).1.Cancelled h.id ↔
      c = .unmount ∨ (b.perform c).1.shows? w.id ≠ b.shows? w.id := by
  by_cases hc : c = .unmount
  · subst hc
    refine iff_of_true (perform_cancelled hb .unmount hw hp ?_) (.inl rfl)
    rintro ⟨v, hv, k, hk, -⟩
    change v ∈ b.unmount.widgets at hv
    rw [b.unmount_takenDown.widgets] at hv
    obtain ⟨v, -, rfl⟩ := List.mem_map.mp hv
    cases hk
  · have change := perform_change hb.aligned hb.idle hc
    have hb' := change.inStep hb
    obtain ⟨e, he⟩ := hb.aligned.exists_entry hw
    obtain ⟨t, ht, hwant⟩ := hb.served w e he h hp
    have hshown : b.shows? w.id ≠ none := by
      rw [shows?_of_mem_entries hb he, e.target?_eq, hwant]
      exact Option.some_ne_none _
    constructor
    · intro hcancelled
      refine .inr fun hsame => hb'.not_holds hcancelled ?_
      obtain ⟨w', e', he', hid⟩ := exists_entry_of_shows? (hsame ▸ hshown)
      have hw' := mem_widgets_of_mem_entries he'
      rw [← hid, shows?_of_mem_entries hb' he', hid, shows?_of_mem_entries hb he] at hsame
      rcases perform_verdict hb hc he hp he' hid with
        ⟨-, hkeeps⟩ | ⟨hsome, hnone, -⟩ | ⟨target, hother, hne, -⟩
      · exact ⟨w', hw', h, hkeeps.1.trans hp, rfl⟩
      · exact absurd (hsame.symm.trans hnone) hsome
      · exact absurd (hsame.symm.trans hother) hne
    · rintro (hunmount | hother)
      · exact absurd hunmount hc
      · refine perform_cancelled hb c hw hp ?_
        rintro ⟨v, hv, k, hk, hkid⟩
        obtain ⟨hid, rfl⟩ := holder_id hb hb' change.told hw hp hv hk hkid
        obtain ⟨e', he'⟩ := hb'.aligned.exists_entry hv
        rcases perform_verdict hb hc he hp he' hid with
          ⟨hsame, -⟩ | ⟨-, -, hgone, -⟩ | ⟨_, -, -, -, k', t', hk', -, hunused, -⟩
        · refine hother ?_
          rw [← hid, shows?_of_mem_entries hb' he', hsame, hid, shows?_of_mem_entries hb he]
        · cases hk.symm.trans hgone
        · cases hk.symm.trans hk'
          cases ht.found.symm.trans hunused

/-- How a board cancels the task of a widget. -/
structure Cancels (b : Board α) (w : Widget) (h : PollerHandle) : Prop where
  /-- A command cancels it exactly if the board is unmounted or the widget shows something else
  afterwards. -/
  command (c : BoardCommand α) :
    (b.perform c).1.Cancelled h.id ↔
      c = .unmount ∨ (b.perform c).1.shows? w.id ≠ b.shows? w.id
  /-- A shutdown cancels it when those before it have come to their end, and from then on it does
  nothing. -/
  shutdown (source : Source) {pre post : List Widget} (split : b.widgets = pre ++ w :: post) :
    (b.shutdown source).1.Cancelled h.id ∧
      ∃ os, (b.shutdown source).2 = (pre.foldl (stopNext source) (b.fleet, [])).2 ++ os ∧
        ∀ o ∈ os, o.poller ≠ h.id

theorem InStep.cancels (hb : b.InStep) (hw : w ∈ b.widgets) (hp : w.poller = some h) :
    b.Cancels w h where
  command c := perform_cancelled_iff hb c hw hp
  shutdown source _ _ split := shutdown_cancelled hb source split hp

end Commands

end Board

end StatusWall

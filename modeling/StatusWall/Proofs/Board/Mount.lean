import StatusWall.Proofs.Board.InStep

/-!
# Mounting and unmounting

A board begins with one widget after the other being mounted, each for the next element of the
document. Seen through `Board.cut`, which leaves away the elements whose turn has not come, that is
one change after the other from a board without elements (`new_induction`), so that tasks are in
step from the beginning. Unmounting takes every task away and leaves widgets and document in place
(`unmount_eq`).
-/

namespace StatusWall

namespace Fleet

/-- Cancels the tasks that some widgets hold. -/
def releaseAll (f : Fleet) (ws : List Widget) : Fleet := ws.foldl (fun f w => f.release w.poller) f

theorem told_releaseAll (f : Fleet) (ws : List Widget) : Told f (f.releaseAll ws) := by
  induction ws generalizing f with
  | nil => exact .refl
  | cons w ws ih => exact (f.told_release w.poller).trans (ih (f.release w.poller))

theorem map_releaseAll_nil (fleet : Option Fleet) : fleet.map (·.releaseAll []) = fleet := by
  cases fleet <;> rfl

end Fleet

namespace Board

variable {α : Type}

/-! ## A new board -/

/-- The board with the first elements only. -/
def cut (b : Board α) (k : Nat) : Board α :=
  { b with dashboard := { b.dashboard with elements := b.dashboard.elements.take k } }

/-- Mounting a widget is a change of the board as far as it is mounted. -/
theorem mount_cut_change {b : Board α} {k : Nat} {e : Element α} (hk : b.widgets.length = k)
    (he : b.dashboard.elements[k]? = some e) :
    Change (fun _ _ _ => False) (b.cut k) ((b.mountWidget.1.syncPoller k).cut (k + 1)) ∧
      (b.mountWidget.1.syncPoller k).dashboard = b.dashboard ∧
      (b.mountWidget.1.syncPoller k).widgets.length = k + 1 := by
  obtain ⟨fleet, w', sync, heq⟩ := mount_sync_eq hk he
  have htake : b.dashboard.elements.take (k + 1) = b.dashboard.elements.take k ++ [e] := by
    rw [List.take_add_one, he]
    rfl
  rw [heq]
  refine ⟨.mounted w' e rfl rfl htake rfl sync, rfl, ?_⟩
  rw [List.length_append, hk]
  rfl

/-- **A new board is made of changes.** What holds of the board without elements, and is kept by
changes, holds of the board of a document. -/
theorem new_induction {P : Board α → Prop} (d : Dashboard α) (fleet : Option Fleet)
    (empty : P { dashboard := { d with elements := [] }, fleet })
    (step : ∀ b b', P b → Change (fun _ _ _ => False) b b' → P b') : P (Board.new d fleet) := by
  -- The board under construction has all elements from the first; its cut is what has been made.
  have mounted : ∀ k : Nat, k ≤ d.elements.length →
      ∃ b, (List.range k).foldl (fun b i => b.mountWidget.1.syncPoller i)
          ({ dashboard := d, fleet } : Board α) = b ∧
        P (b.cut k) ∧ b.dashboard = d ∧ b.widgets.length = k := by
    intro k
    induction k with
    | zero => exact fun _ => ⟨_, rfl, empty, rfl, rfl⟩
    | succ k ih =>
      intro hk
      obtain ⟨b, heq, hP, hd, hlen⟩ := ih (Nat.le_of_succ_le hk)
      have he : b.dashboard.elements[k]? = some d.elements[k] := by
        rw [hd]
        exact List.getElem?_eq_getElem hk
      obtain ⟨change, hd', hlen'⟩ := mount_cut_change hlen he
      refine ⟨_, ?_, step _ _ hP change, hd'.trans hd, hlen'⟩
      rw [List.range_succ, List.foldl_append, heq]
      rfl
  obtain ⟨b, heq, hP, hd, -⟩ := mounted d.elements.length (Nat.le_refl _)
  have hcut : b.cut d.elements.length = b := by
    unfold cut
    rw [hd, List.take_length, ← hd]
  rw [hcut, ← heq] at hP
  exact hP

/-- A board without elements is in step. -/
theorem empty_inStep (d : Dashboard α) {fleet : Option Fleet}
    (hn : ∀ f, fleet = some f → f.Numbered) :
    ({ dashboard := { d with elements := [] }, fleet } : Board α).InStep where
  aligned := rfl
  nodup := List.nodup_nil
  fresh _ hw := absurd hw List.not_mem_nil
  numbered := hn
  idle _ hw := absurd hw List.not_mem_nil
  served _ _ he := absurd he List.not_mem_nil

/-- A new board is in step with its document, and every task is there that should be. -/
theorem new_inStep (d : Dashboard α) {fleet : Option Fleet}
    (hn : ∀ f, fleet = some f → f.Numbered) :
    (Board.new d fleet).InStep ∧ (Board.new d fleet).Full := by
  refine new_induction (P := fun b => b.InStep ∧ b.Full) d fleet ⟨empty_inStep d hn, ?_⟩ ?_
  · exact fun _ _ _ he => absurd he List.not_mem_nil
  · exact fun b b' h change => ⟨change.inStep h.1, change.full h.1 h.2⟩

/-! ## Unmounting -/

/-- Stopping the tasks of the first places. -/
theorem foldl_stopPolling (b : Board α) (k : Nat) :
    ∃ widgets,
      (List.range k).foldl (fun b i => b.stopPolling i) b =
        { b with widgets, fleet := b.fleet.map (·.releaseAll (b.widgets.take k)) } ∧
      ∀ j : Nat, widgets[j]? = if j < k then b.widgets[j]?.map Widget.idled else b.widgets[j]? := by
  induction k with
  | zero =>
    refine ⟨b.widgets, ?_, fun j => rfl⟩
    show b = _
    rw [List.take_zero, Fleet.map_releaseAll_nil]
  | succ k ih =>
    obtain ⟨widgets, heq, places⟩ := ih
    rw [List.range_succ, List.foldl_append, heq]
    have hk : widgets[k]? = b.widgets[k]? := (places k).trans (if_neg (Nat.lt_irrefl k))
    have hfleet : (b.fleet.map (·.releaseAll (b.widgets.take k))).map
        (·.release (widgets[k]?.bind (·.poller))) =
          b.fleet.map (·.releaseAll (b.widgets.take (k + 1))) := by
      rw [Option.map_map, hk, List.take_add_one]
      congr 1
      funext f
      unfold Fleet.releaseAll
      rw [List.foldl_append]
      cases b.widgets[k]? <;> rfl
    refine ⟨widgets.modify k Widget.idled, (stopPolling_eq _ k).trans ?_, fun j => ?_⟩
    · exact congrArg
        (fun fleet => ({ b with widgets := widgets.modify k Widget.idled, fleet } : Board α)) hfleet
    rw [List.getElem?_modify, places]
    rcases Nat.lt_trichotomy j k with hlt | rfl | hgt
    · rw [if_pos hlt, if_pos (Nat.lt_succ_of_lt hlt)]
      cases b.widgets[j]? with
      | none => rfl
      | some w => exact congrArg some (if_neg (Nat.ne_of_gt hlt))
    · rw [if_neg (Nat.lt_irrefl j), if_pos (Nat.lt_succ_self j)]
      cases b.widgets[j]? with
      | none => rfl
      | some w => exact congrArg some (if_pos rfl)
    · rw [if_neg (Nat.lt_asymm hgt), if_neg (Nat.not_lt.mpr hgt)]
      cases b.widgets[j]? with
      | none => rfl
      | some w => exact congrArg some (if_neg (Nat.ne_of_lt hgt))

/-- Unmounting takes every task and the gesture away. -/
theorem unmount_eq (b : Board α) :
    b.unmount =
      { b with
          widgets := b.widgets.map Widget.idled
          fleet := b.fleet.map (·.releaseAll b.widgets)
          drag := {} } := by
  obtain ⟨widgets, heq, places⟩ := b.foldl_stopPolling b.widgets.length
  have hall : widgets = b.widgets.map Widget.idled := by
    apply List.ext_getElem?
    intro j
    rw [places, List.getElem?_map]
    split
    · rfl
    · next hge =>
      rw [List.getElem?_eq_none (Nat.not_lt.mp hge)]
      rfl
  unfold unmount
  simp only
  rw [heq, hall, List.take_length]
  rfl

theorem unmount_told (b : Board α) : Option.Rel Fleet.Told b.fleet b.unmount.fleet := by
  rw [unmount_eq]
  exact Fleet.told_map (fun f => f.told_releaseAll b.widgets) _

/-- A board whose widgets hold no tasks is in step. -/
theorem InStep.idled {b b' : Board α} (hb : b.InStep)
    (widgets : b'.widgets = b.widgets.map Widget.idled) (nextId : b'.nextId = b.nextId)
    (elements : b'.dashboard.elements = b.dashboard.elements) (numbered : b'.Numbered) :
    b'.InStep where
  aligned := by
    unfold Aligned
    rw [widgets, elements, List.length_map]
    exact hb.aligned
  nodup := by
    unfold widgetIds
    rw [widgets, List.map_map]
    exact hb.nodup
  fresh w hw := by
    rw [widgets] at hw
    obtain ⟨v, hv, rfl⟩ := List.mem_map.mp hw
    rw [nextId]
    exact hb.fresh v hv
  numbered := numbered
  idle w hw _ := by
    rw [widgets] at hw
    obtain ⟨v, -, rfl⟩ := List.mem_map.mp hw
    rfl
  served w e he h hp := by
    have hw := mem_widgets_of_mem_entries he
    rw [widgets] at hw
    obtain ⟨v, -, rfl⟩ := List.mem_map.mp hw
    cases hp

end Board

end StatusWall

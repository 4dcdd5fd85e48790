import StatusWall.Proofs.Board.Refinement

/-!
# What a session keeps of every element

A property of elements can only be lost by a command, since nothing else touches the document. Once it
is known under which condition a command keeps it (`Governs`), it is known for whole sessions: all
elements keep the property at every moment exactly if the condition is met before every command
(`Chronicle.governed_run_iff`, `BoardRun.governed_steps_iff`).
-/

namespace StatusWall

open StatusWall.Geometry

section Prefixes

variable {σ μ : Type} {f : σ → μ → σ} {S P : σ → Prop} {Q : σ → μ → Prop}

theorem foldl_invariant (sound : ∀ s m, S s → S (f s m)) {s : σ} (hs : S s) (ms : List μ) :
    S (ms.foldl f s) := by
  induction ms generalizing s with
  | nil => exact hs
  | cons m ms ih => exact ih (sound s m hs)

/-- If a step keeps a predicate exactly under a condition, then the predicate holds at every prefix
of a list of steps exactly if the condition holds before every step. -/
theorem forall_prefix_iff {s : σ} (hs : S s) (h : P s) (sound : ∀ s m, S s → S (f s m))
    (kept : ∀ s m, S s → P s → (P (f s m) ↔ Q s m)) (ms : List μ) :
    (∀ pre, pre <+: ms → P (pre.foldl f s)) ↔
      ∀ pre m, pre ++ [m] <+: ms → Q (pre.foldl f s) m := by
  constructor
  · intro always pre m hpre
    have before := always pre ((List.prefix_append pre [m]).trans hpre)
    have after := always (pre ++ [m]) hpre
    rw [List.foldl_concat] at after
    exact (kept _ m (foldl_invariant sound hs pre) before).mp after
  · intro conditions pre
    induction pre using List.reverseRecOn with
    | nil => exact fun _ => h
    | append_singleton pre m ih =>
      intro hpre
      have before := ih ((List.prefix_append pre [m]).trans hpre)
      rw [List.foldl_concat]
      exact (kept _ m (foldl_invariant sound hs pre) before).mpr (conditions pre m hpre)

end Prefixes

variable {α : Type}

namespace Board

/-- Every element of the board has the property. -/
def All (P : Element α → Prop) (b : Board α) : Prop := ∀ e ∈ b.dashboard.elements, P e

variable {b : Board α} {P : Element α → Prop}

/-- What is in the register is what is in the document. -/
theorem InStep.all_iff (hb : b.InStep) : b.All P ↔ ∀ p ∈ b.register.rows, P p.2 := by
  have hrows : b.register.rows.map (·.2) = b.dashboard.elements :=
    List.map_snd_zip (Nat.le_of_eq hb.aligned.length_widgetIds.symm)
  unfold All
  rw [← hrows, List.forall_mem_map]

theorem All.of_element? (h : b.All P) {id : WidgetId} {e : Element α} (he : b.element? id = some e) :
    P e := by
  obtain ⟨i, -, hei⟩ := Option.bind_eq_some_iff.mp he
  exact h e (List.mem_of_getElem? hei)

variable [Scalar α]

/-- A property of the default element outlasts a command exactly if the element that the command edits
still has it. -/
theorem All.perform_iff (h : b.All P) (aligned : b.Aligned) (default : P .default)
    (c : BoardCommand α) :
    (b.perform c).1.All P ↔
      ∀ id edit e, c.edit? b.drag = some (id, edit) → b.element? id = some e → P (edit e) := by
  constructor
  · intro after id edit e hedit he
    exact after _ (mem_perform_of_edit? aligned hedit he)
  · intro edited
    exact forall_mem_perform aligned h default fun id edit hedit e he _ => edited id edit e hedit he

end Board

variable [Scalar α] {P : Element α → Prop} {Q : Board α → BoardCommand α → Prop}

/-- If all elements have the property, a command leaves it to all of them exactly under the
condition. -/
def Governs (Q : Board α → BoardCommand α → Prop) (P : Element α → Prop) : Prop :=
  ∀ b : Board α, b.Aligned → b.All P → ∀ c, (b.perform c).1.All P ↔ Q b c

namespace Chronicle

variable {c : Chronicle α}

theorem governed_step_iff (governs : Governs Q P) (hc : c.Sound) (h : c.board.All P) (m : Moment α) :
    (c.step m).board.All P ↔ ∀ command, m = .command command → Q c.board command := by
  by_cases hm : ∃ command, m = .command command
  · obtain ⟨command, rfl⟩ := hm
    simp only [Moment.command.injEq, forall_eq']
    exact governs c.board hc.inStep.aligned h command
  · have hm : ∀ command, m ≠ .command command := fun command heq => hm ⟨command, heq⟩
    rw [(hc.step m).inStep.all_iff, register_step hm, ← hc.inStep.all_iff]
    exact ⟨fun _ _ heq => absurd heq (hm _), fun _ => h⟩

/-- **A session keeps a property exactly if its commands do.** -/
theorem governed_run_iff (governs : Governs Q P) (hc : c.Sound) (h : c.board.All P)
    (ms : List (Moment α)) :
    (∀ pre, pre <+: ms → (c.run pre).board.All P) ↔
      ∀ pre command, pre ++ [.command command] <+: ms → Q (c.run pre).board command := by
  refine (forall_prefix_iff (P := fun c => c.board.All P) hc h (fun _ m hc => hc.step m)
    (fun _ m hc h => governed_step_iff governs hc h m) ms).trans ?_
  constructor
  · exact fun commands pre command hpre => commands pre _ hpre command rfl
  · rintro commands pre _ hpre command rfl
    exact commands pre command hpre

end Chronicle

namespace BoardRun

variable {r : BoardRun α}

theorem governed_step_iff (governs : Governs Q P) (hr : r.Sound) (h : r.board.All P)
    (s : Source × RunStep α) :
    (r.step s.1 s.2).1.board.All P ↔ ∀ command, s.2 = .command command → Q r.board command := by
  obtain ⟨source, s⟩ := s
  by_cases hs : ∃ command, s = .command command
  · obtain ⟨command, rfl⟩ := hs
    simp only [RunStep.command.injEq, forall_eq']
    exact governs r.board hr.inStep.aligned h command
  · have hs : ∀ command, s ≠ .command command := fun command heq => hs ⟨command, heq⟩
    rw [(hr.step source s).inStep.all_iff, register_step source hs, ← hr.inStep.all_iff]
    exact ⟨fun _ _ heq => absurd heq (hs _), fun _ => h⟩

/-- **A run keeps a property exactly if its commands do.** -/
theorem governed_steps_iff (governs : Governs Q P) (hr : r.Sound) (h : r.board.All P)
    (ss : List (Source × RunStep α)) :
    (∀ pre, pre <+: ss → (r.steps pre).board.All P) ↔
      ∀ pre source command, pre ++ [(source, .command command)] <+: ss →
        Q (r.steps pre).board command := by
  refine (forall_prefix_iff (P := fun r => r.board.All P) hr h (fun _ s hr => hr.step s.1 s.2)
    (fun _ s hr h => governed_step_iff governs hr h s) ss).trans ?_
  constructor
  · exact fun commands pre source command hpre => commands pre _ hpre command rfl
  · rintro commands pre ⟨source, _⟩ hpre command rfl
    exact commands pre source command hpre

end BoardRun

end StatusWall

import StatusWall.Proofs.Json.Printer
import StatusWall.Settings.File

/-!
# Settings saved and loaded

Whatever the settings file holds, what is loaded from it lies within the bounds (`WithinBounds`), and
so do the defaults that stand in for a missing file. Bringing settings into their bounds changes
nothing where they lie within them (`WithinBounds.bounded_eq`), so it is done once for all.

A file that was saved is always loaded again, with the settings that were saved in their bounds. That
holds for any settings whose numbers fit the words the program keeps them in (`Fits`), within their
bounds or not. Together: what was loaded once is saved and loaded as it is (`settings_round_trip`).
-/

namespace StatusWall.Settings

open Json

/-- Every value is within its bounds. -/
structure WithinBounds (s : Settings) : Prop where
  server : Text.isBlankText s.serverUrl = false
  interval : 5 ≤ s.pollIntervalSecs ∧ s.pollIntervalSecs ≤ 3600
  timeout : 1 ≤ s.fetchTimeoutSecs ∧ s.fetchTimeoutSecs ≤ s.pollIntervalSecs
  width : 200 ≤ s.windowWidth ∧ s.windowWidth ≤ 8192
  height : 200 ≤ s.windowHeight ∧ s.windowHeight ≤ 8192

/-- Seconds are words of 64 bits, and pixels words of 16 bits. -/
structure Fits (s : Settings) : Prop where
  interval : s.pollIntervalSecs < 2 ^ 64
  timeout : s.fetchTimeoutSecs < 2 ^ 64
  width : s.windowWidth < 2 ^ 16
  height : s.windowHeight < 2 ^ 16

/-! ## Bounds -/

theorem boundedWindow_bounds (pixels : Nat) {fallback : Nat}
    (h : minWindow ≤ fallback ∧ fallback ≤ maxWindow) :
    minWindow ≤ boundedWindow pixels fallback ∧ boundedWindow pixels fallback ≤ maxWindow := by
  unfold boundedWindow minWindow maxWindow at *
  split
  · exact h
  · split <;> omega

/-- **Bounded settings are within their bounds**, whatever they were. -/
theorem bounded_withinBounds (s : Settings) : s.bounded.WithinBounds where
  server := by
    unfold bounded
    dsimp only
    split
    · rfl
    · next h => exact Bool.eq_false_iff.mpr h
  interval := boundedInterval_bounds s.pollIntervalSecs
  timeout := by
    have positive : 0 < boundedInterval s.pollIntervalSecs :=
      Nat.lt_of_lt_of_le (by decide) (boundedInterval_bounds s.pollIntervalSecs).1
    exact ⟨(boundedTimeout_bounds s.fetchTimeoutSecs positive).1, s.fetchTimeoutSecs_bounded_le⟩
  width := boundedWindow_bounds s.windowWidth (by decide)
  height := boundedWindow_bounds s.windowHeight (by decide)

theorem boundedWindow_eq {pixels : Nat} (h : 200 ≤ pixels ∧ pixels ≤ 8192) (fallback : Nat) :
    boundedWindow pixels fallback = pixels := by
  unfold boundedWindow minWindow maxWindow
  rw [if_neg (by omega), if_neg (by omega)]

namespace WithinBounds

variable {s : Settings} (h : s.WithinBounds)

include h

/-- **Within the bounds nothing changes.** -/
theorem bounded_eq : s.bounded = s := by
  have interval : boundedInterval s.pollIntervalSecs = s.pollIntervalSecs := by
    have := h.interval
    unfold boundedInterval minInterval maxInterval
    rw [if_neg (by omega), if_neg (by omega)]
  have timeout : boundedTimeout s.fetchTimeoutSecs s.pollIntervalSecs = s.fetchTimeoutSecs := by
    have := h.timeout
    unfold boundedTimeout
    rw [if_neg (by omega), if_neg (by omega)]
  unfold bounded
  simp only [h.server, Bool.false_eq_true, if_false, interval, timeout, boundedWindow_eq h.width,
    boundedWindow_eq h.height]

theorem fits : s.Fits := by
  obtain ⟨-, interval, timeout, width, height⟩ := h
  exact ⟨by omega, by omega, by omega, by omega⟩

end WithinBounds

/-! ## The text of the file -/

section Text

variable {s : Settings} (h : s.Fits)

include h

theorem isWhole_toJson : s.toJson.IsWhole := by
  have word {n k : Nat} (hn : n < 2 ^ k) (hk : 2 ^ k ≤ 2 ^ 64) : n ≤ Number.greatest := by
    show n ≤ 2 ^ 64 - 1
    omega
  exact ⟨trivial, trivial, word h.interval (by decide), word h.timeout (by decide),
    word h.width (by decide), word h.height (by decide), trivial⟩

/-- **Settings that are written are read back.** -/
theorem read_toJson (room : Nat) : read (.text (room + 1)) (Doc.ofValue s.toJson) = .ok s := by
  have natural {n limit : Nat} (wanted : String) (hn : n ≤ limit) :
      Doc.asNatural limit wanted (Doc.ofValue (.number (.natural n))) = .ok n := if_pos hn
  have seconds {n : Nat} (hn : n < 2 ^ 64) :
      readSeconds (Doc.ofValue (.number (.natural n))) = .ok n :=
    natural "u64" (Nat.le_sub_one_of_lt hn)
  have pixels {n : Nat} (hn : n < 2 ^ 16) :
      readPixels (Doc.ofValue (.number (.natural n))) = .ok n :=
    natural "u16" (Nat.le_sub_one_of_lt hn)
  have interval := Doc.fill_none "poll_interval_secs" (seconds h.interval)
  have timeout := Doc.fill_none "fetch_timeout_secs" (seconds h.timeout)
  have width := Doc.fill_none "window_width" (pixels h.width)
  have height := Doc.fill_none "window_height" (pixels h.height)
  have fold : Doc.foldFields meet {} (Doc.ofFields
      [("server_url", .text s.serverUrl), ("log_level", .text s.logLevel),
       ("poll_interval_secs", .number (.natural s.pollIntervalSecs)),
       ("fetch_timeout_secs", .number (.natural s.fetchTimeoutSecs)),
       ("window_width", .number (.natural s.windowWidth)),
       ("window_height", .number (.natural s.windowHeight))]) =
      .ok { serverUrl := some s.serverUrl, logLevel := some s.logLevel
            pollIntervalSecs := some s.pollIntervalSecs
            fetchTimeoutSecs := some s.fetchTimeoutSecs
            windowWidth := some s.windowWidth, windowHeight := some s.windowHeight } := by
    rw [Doc.foldFields_cons rfl, Doc.foldFields_cons rfl,
      Doc.foldFields_cons (congrArg (· >>= _) interval),
      Doc.foldFields_cons (congrArg (· >>= _) timeout),
      Doc.foldFields_cons (congrArg (· >>= _) width), Doc.foldFields_cons (congrArg (· >>= _) height)]
    rfl
  exact congrArg (· >>= fun p => pure (ofPlaces p)) fold

/-- **A saved file is read as the settings that were saved.** -/
theorem readText_fileText : readText read s.fileText = .ok s :=
  (readText_pretty read (isWhole_toJson h)).trans (read_toJson h 126)

end Text

/-! ## Loading -/

theorem fromUTF8?_toUTF8 (text : String) : String.fromUTF8? text.toUTF8 = some text := by
  unfold String.fromUTF8?
  exact dif_pos text.isValidUTF8

theorem eq_fileText_of_save {s : Settings} {path text : String} {place : Place}
    (h : s.save path place = .ok text) : text = s.fileText := by
  unfold save at h
  split at h
  · cases h
  · cases h
  · split at h
    · exact (Except.ok.inj h).symm
    · cases h

/-- Where loading succeeds there was a file with settings in it, or none, and then it is created with
the defaults. -/
theorem load_eq_ok {path : String} {place : Place} {loaded : Loaded}
    (h : load path place = .ok loaded) :
    (∃ s : Settings, loaded.settings = s.bounded ∧ loaded.written = none) ∨
      loaded.settings = {} ∧ loaded.written = some ({} : Settings).fileText := by
  unfold load at h
  split at h
  · split at h
    · cases h
    · split at h
      · cases h
      · next s _ =>
        cases h
        exact .inl ⟨s, rfl, rfl⟩
  · cases h
  · obtain ⟨text, saved, h⟩ := bind_eq_ok.mp h
    cases h
    exact .inr ⟨rfl, congrArg some (eq_fileText_of_save saved)⟩

/-- What is loaded is within the bounds. -/
theorem withinBounds_of_load {path : String} {place : Place} {loaded : Loaded}
    (h : load path place = .ok loaded) : loaded.settings.WithinBounds := by
  rcases load_eq_ok h with ⟨s, hsettings, -⟩ | ⟨hsettings, -⟩
  · rw [hsettings]
    exact s.bounded_withinBounds
  · have defaults : ({} : Settings).bounded = {} := by decide
    rw [hsettings, ← defaults]
    exact bounded_withinBounds {}

/-- A saved file is loaded, and comes to the bounded settings. -/
theorem load_fileText {s : Settings} (h : s.Fits) (path : String) :
    ∃ loaded, load path (.file s.fileText.toUTF8) = .ok loaded ∧ loaded.settings = s.bounded := by
  unfold load
  simp only [fromUTF8?_toUTF8, readText_fileText h]
  exact ⟨_, rfl, rfl⟩

/-- **Saving and loading agree.** What is loaded from anywhere is within the bounds. A file that was
saved is always loaded, whatever the settings were, and comes to these settings in their bounds. So
settings that were loaded are loaded again as they are, from any file they were saved to and from the
one that loading created. -/
theorem settings_round_trip :
    (∀ path place loaded, load path place = .ok loaded → loaded.settings.WithinBounds) ∧
    (∀ s : Settings, s.Fits → ∀ path place text, s.save path place = .ok text →
      ∃ loaded, load path (.file text.toUTF8) = .ok loaded ∧ loaded.settings = s.bounded) ∧
    ∀ path place loaded, load path place = .ok loaded → ∀ text,
      ((∃ path' place', loaded.settings.save path' place' = .ok text) ∨ loaded.written = some text) →
      ∀ path', ∃ again, load path' (.file text.toUTF8) = .ok again ∧ again.settings = loaded.settings := by
  refine ⟨fun _ _ _ h => withinBounds_of_load h, ?saved, ?loaded⟩
  case saved =>
    intro s fits path place text h
    rw [eq_fileText_of_save h]
    exact load_fileText fits path
  case loaded =>
    intro path place loaded h text written path'
    have within := withinBounds_of_load h
    have spelled : text = loaded.settings.fileText := by
      rcases written with ⟨_, _, saved⟩ | created
      · exact eq_fileText_of_save saved
      · rcases load_eq_ok h with ⟨_, -, hwritten⟩ | ⟨hsettings, hwritten⟩
        · cases hwritten.symm.trans created
        · rw [hsettings]
          exact (Option.some.inj (hwritten.symm.trans created)).symm
    have reloaded := load_fileText within.fits path'
    rw [within.bounded_eq] at reloaded
    rw [spelled]
    exact reloaded

/-- Settings none of whose values but the level are within their bounds. -/
def strayingSettings : Settings :=
  { serverUrl := " \t ", logLevel := "de\"bug\n", pollIntervalSecs := 0
    fetchTimeoutSecs := 18446744073709551615, windowWidth := 0, windowHeight := 65535 }

/-- Straying settings are saved as they are, and loaded in their bounds; and the file that a first
start creates is loaded at the second as it was. -/
theorem straying_settings_are_loaded_in_bounds :
    strayingSettings.Fits ∧
      strayingSettings.save "wall.json" .missing = .ok strayingSettings.fileText ∧
      (∃ loaded, load "wall.json" (.file strayingSettings.fileText.toUTF8) = .ok loaded ∧
        loaded.settings =
          { serverUrl := "http://localhost:8585", logLevel := "de\"bug\n", pollIntervalSecs := 5
            fetchTimeoutSecs := 5, windowWidth := 1280, windowHeight := 8192 }) ∧
      ∃ loaded, load "wall.json" .missing = .ok loaded ∧ loaded.settings.WithinBounds ∧
        ∃ again, load "wall.json" (.file ({} : Settings).fileText.toUTF8) = .ok again ∧
          again.settings = loaded.settings := by
  obtain ⟨bounds, saved, loaded⟩ := settings_round_trip
  have fits : strayingSettings.Fits := ⟨by decide, by decide, by decide, by decide⟩
  have hsave : strayingSettings.save "wall.json" .missing = .ok strayingSettings.fileText := rfl
  have hload : load "wall.json" .missing =
      .ok { settings := {}, written := some ({} : Settings).fileText
            records := [missingRecord "wall.json", savedRecord "wall.json"] } := rfl
  refine ⟨fits, hsave, ?_, _, hload, bounds _ _ _ hload, loaded _ _ _ hload _ (.inr rfl) _⟩
  obtain ⟨again, hagain, hsettings⟩ := saved strayingSettings fits "wall.json" .missing _ hsave
  exact ⟨again, hagain, hsettings.trans (by decide)⟩

end StatusWall.Settings

import ChatDice.Proofs.Settings.Group
import ChatDice.Settings.Cache

/-!
# ChatDice.Proofs.Settings.Cache — which settings are kept over time

The parts of a program ask for settings and load them, in any order, while the environment and the
files change around it. `SettingsKeeper` is such a program, and what comes of its events is a
history. The history alone decides which settings are in force: those of the last load that has
succeeded, and if none has, those that were got first (`inForce`).

`SettingsKeeper.cache_step` says what one event can do to the settings that are kept. A load that
succeeds replaces them, a get that succeeds fills the cache if there is nothing in it, and that is
all: changes of the world and attempts that fail leave no trace. A run of events is an induction
over it (`SettingsKeeper.cache_run`), from which `SettingsKeeper.get_in_force` follows.
-/

namespace ChatDice

namespace SettingsCache

/-- A load that succeeds replaces what is kept, and one that fails keeps it. -/
theorem load_eq (world : SettingsWorld) (path? : Option String) (cache : SettingsCache) :
    load world path? cache = (world.load path?, (world.load path?).toOption.or cache) := by
  delta load
  cases world.load path? <;> rfl

theorem get_some (world : SettingsWorld) (settings : Settings) :
    get world (some settings) = (.ok settings, some settings) := rfl

theorem get_none (world : SettingsWorld) :
    get world none = (world.load none, (world.load none).toOption) := by
  show load world none none = _
  rw [load_eq, Option.or_none]

end SettingsCache

/-! ## Events -/

/-- Something that happens to a program that keeps settings. -/
inductive SettingsEvent where
  /-- The settings are asked for. -/
  | get
  /-- The settings are loaded, with the named file or the default one. -/
  | load (path? : Option String)
  /-- The environment or the files change. -/
  | change (world : SettingsWorld)

/-- The world that an event changes to. -/
def SettingsEvent.changedTo? : SettingsEvent → Option SettingsWorld
  | change world => some world
  | _ => none

/-- What an event has come to. -/
inductive SettingsOccurrence where
  | got (result : Except SettingsError Settings)
  | loaded (result : Except SettingsError Settings)
  | changed

namespace SettingsOccurrence

/-- The settings of a get that has succeeded. -/
def got? : SettingsOccurrence → Option Settings
  | got result => result.toOption
  | _ => none

/-- The settings of a load that has succeeded. -/
def loaded? : SettingsOccurrence → Option Settings
  | loaded result => result.toOption
  | _ => none

/-- An attempt to get or to load settings that has failed. -/
inductive Failed : SettingsOccurrence → Prop
  | got (e : SettingsError) : Failed (got (.error e))
  | loaded (e : SettingsError) : Failed (loaded (.error e))

theorem loaded?_loaded (result : Except SettingsError Settings) :
    (loaded result).loaded? = result.toOption := rfl

/-- What has failed has been attempted and has yielded nothing. -/
theorem failed_iff {o : SettingsOccurrence} :
    o.Failed ↔ o ≠ changed ∧ o.loaded? = none ∧ o.got? = none := by
  constructor
  · intro h
    cases h <;> exact ⟨nofun, rfl, rfl⟩
  · rintro ⟨hattempt, hloaded, hgot⟩
    cases o with
    | changed => exact absurd rfl hattempt
    | got result =>
      cases result with
      | error e => exact .got e
      | ok settings => cases hgot
    | loaded result =>
      cases result with
      | error e => exact .loaded e
      | ok settings => cases hloaded

theorem eq_of_loaded? {o : SettingsOccurrence} {settings : Settings}
    (h : o.loaded? = some settings) : o = loaded (.ok settings) := by
  cases o with
  | loaded result => rw [eq_ok_of_toOption h]
  | got result => cases h
  | changed => cases h

end SettingsOccurrence

open SettingsOccurrence

/-! ## Histories -/

/-- The settings of the last load that has succeeded. -/
def lastLoaded (history : List SettingsOccurrence) : Option Settings :=
  history.reverse.findSome? loaded?

/-- The settings of the first get that has succeeded. -/
def firstGot (history : List SettingsOccurrence) : Option Settings :=
  history.findSome? got?

/-- The settings in force after a history. -/
def inForce (history : List SettingsOccurrence) : Option Settings :=
  (lastLoaded history).or (firstGot history)

theorem lastLoaded_cons (o : SettingsOccurrence) (history : List SettingsOccurrence) :
    lastLoaded (o :: history) = (lastLoaded history).or o.loaded? := by
  rw [lastLoaded, List.reverse_cons, List.findSome?_append, List.findSome?_singleton]
  rfl

theorem firstGot_cons (o : SettingsOccurrence) (history : List SettingsOccurrence) :
    firstGot (o :: history) = o.got?.or (firstGot history) := by
  rw [firstGot, List.findSome?_cons]
  cases o.got? <;> rfl

theorem lastLoaded_eq_none_iff {history : List SettingsOccurrence} :
    lastLoaded history = none ↔ ∀ settings, .loaded (.ok settings) ∉ history := by
  rw [lastLoaded, List.findSome?_eq_none_iff]
  simp only [List.mem_reverse]
  constructor
  · intro h settings hmem
    exact absurd (h _ hmem) nofun
  · intro h o ho
    rw [Option.eq_none_iff_forall_ne_some]
    intro settings hloaded
    obtain rfl := eq_of_loaded? hloaded
    exact h settings ho

/-! ## Runs -/

/-- A program that keeps settings, with the world around it. -/
@[ext]
structure SettingsKeeper where
  world : SettingsWorld
  cache : SettingsCache

namespace SettingsKeeper

/-- What an event comes to. -/
def occurrence (k : SettingsKeeper) : SettingsEvent → SettingsOccurrence
  | .get => .got (SettingsCache.get k.world k.cache).1
  | .load path? => .loaded (SettingsCache.load k.world path? k.cache).1
  | .change _ => .changed

/-- The program after an event. -/
def step (k : SettingsKeeper) : SettingsEvent → SettingsKeeper
  | .get => { k with cache := (SettingsCache.get k.world k.cache).2 }
  | .load path? => { k with cache := (SettingsCache.load k.world path? k.cache).2 }
  | .change world => { k with world }

/-- The program after a run of events. -/
def run (k : SettingsKeeper) (events : List SettingsEvent) : SettingsKeeper :=
  events.foldl step k

/-- What the events of a run come to, one after another. -/
def history : SettingsKeeper → List SettingsEvent → List SettingsOccurrence
  | _, [] => []
  | k, event :: events => k.occurrence event :: history (k.step event) events

variable {k : SettingsKeeper}

theorem run_cons (k : SettingsKeeper) (event : SettingsEvent) (events : List SettingsEvent) :
    k.run (event :: events) = (k.step event).run events :=
  List.foldl_cons

theorem run_append (k : SettingsKeeper) (events later : List SettingsEvent) :
    k.run (events ++ later) = (k.run events).run later :=
  List.foldl_append

/-! ### One event -/

/-- A load is of the present world, whatever is kept. -/
theorem occurrence_load (k : SettingsKeeper) (path? : Option String) :
    k.occurrence (.load path?) = .loaded (k.world.load path?) := by
  rw [occurrence, SettingsCache.load_eq]

/-- What is kept is got. -/
theorem occurrence_get_of_some {settings : Settings} (h : k.cache = some settings) :
    k.occurrence .get = .got (.ok settings) := by
  rw [occurrence, h, SettingsCache.get_some]

/-- Where nothing is kept, a get is a load of the present world. -/
theorem occurrence_get_of_none (h : k.cache = none) :
    k.occurrence .get = .got (k.world.load none) := by
  rw [occurrence, h, SettingsCache.get_none]

/-- What is kept after an event: the settings of a load that succeeds, else what was kept before,
else the settings of a get that succeeds. -/
theorem cache_step (k : SettingsKeeper) (event : SettingsEvent) :
    (k.step event).cache =
      (k.occurrence event).loaded?.or (k.cache.or (k.occurrence event).got?) := by
  cases event with
  | get =>
    cases hcache : k.cache with
    | some settings =>
      rw [occurrence_get_of_some hcache, step, hcache, SettingsCache.get_some]
      rfl
    | none =>
      rw [occurrence_get_of_none hcache, step, hcache, SettingsCache.get_none]
      rfl
  | load path? =>
    have hgot : (loaded (k.world.load path?)).got? = none := rfl
    rw [occurrence_load, step, SettingsCache.load_eq, hgot, Option.or_none, loaded?_loaded]
  | change world => exact Option.or_none.symm

/-- Settings that have been got are kept. -/
theorem cache_step_of_got {settings : Settings} (h : k.occurrence .get = .got (.ok settings)) :
    (k.step .get).cache = some settings := by
  have hloaded : (got (.ok settings)).loaded? = none := rfl
  rw [cache_step, h, hloaded, Option.none_or]
  cases hcache : k.cache with
  | none => rfl
  | some kept =>
    rw [occurrence_get_of_some hcache] at h
    cases h
    rfl

/-- Only a change of the world changes it. -/
theorem world_step (k : SettingsKeeper) (event : SettingsEvent) :
    (k.step event).world = event.changedTo?.getD k.world := by
  cases event <;> simp only [step, SettingsEvent.changedTo?, Option.getD_none, Option.getD_some]

/-- An attempt that fails leaves everything as it is. -/
theorem step_of_failed {event : SettingsEvent} (h : (k.occurrence event).Failed) :
    k.step event = k := by
  have hworld : event.changedTo? = none := by
    cases event with
    | change world => cases h
    | _ => rfl
  obtain ⟨-, hloaded, hgot⟩ := failed_iff.mp h
  apply SettingsKeeper.ext
  · rw [world_step, hworld, Option.getD_none]
  · rw [cache_step, hloaded, hgot, Option.none_or, Option.or_none]

/-! ### Runs of events -/

/-- What is kept after a run is decided by its history and what was kept before. -/
theorem cache_run (k : SettingsKeeper) (events : List SettingsEvent) :
    (k.run events).cache =
      (lastLoaded (k.history events)).or (k.cache.or (firstGot (k.history events))) := by
  induction events generalizing k with
  | nil => exact Option.or_none.symm
  | cons event events ih =>
    -- The first event counts less than all later loads, and more than all later gets.
    rw [run_cons, ih, cache_step, history, lastLoaded_cons, firstGot_cons]
    simp only [Option.or_assoc]

theorem world_run (k : SettingsKeeper) (events : List SettingsEvent) :
    (k.run events).world = (events.reverse.findSome? SettingsEvent.changedTo?).getD k.world := by
  induction events generalizing k with
  | nil => rfl
  | cons event events ih =>
    rw [run_cons, ih, world_step, List.reverse_cons, List.findSome?_append]
    cases events.reverse.findSome? SettingsEvent.changedTo? with
    | some world => rfl
    | none => cases event <;> rfl

/-- A program that starts with nothing keeps the settings in force. -/
theorem cache_run_of_none (h : k.cache = none) (events : List SettingsEvent) :
    (k.run events).cache = inForce (k.history events) := by
  rw [cache_run, h, Option.none_or, inForce]

/-- What is kept stays until a load succeeds. -/
theorem cache_run_of_some {settings : Settings} (h : k.cache = some settings)
    {events : List SettingsEvent} (hload : ∀ other, .loaded (.ok other) ∉ k.history events) :
    (k.run events).cache = some settings := by
  rw [cache_run, lastLoaded_eq_none_iff.mpr hload, h, Option.none_or, Option.some_or]

/-- Which settings a program gets, after any run of events that it starts with nothing kept. The
settings that are kept are those in force, and what is got is in force:

* where settings are in force, a get gives them, and it does so until a load succeeds, whatever
  happens to the world and whatever fails in between;
* where none are, a get tries to load them from the world as it is by then, and so does each load;
* an attempt that fails leaves everything as it is. -/
theorem get_in_force (world : SettingsWorld) (events : List SettingsEvent) :
    let start : SettingsKeeper := { world, cache := none }
    let k := start.run events
    k.cache = inForce (start.history events) ∧
      (∀ settings, k.occurrence .get = .got (.ok settings) →
        inForce (start.history (events ++ [.get])) = some settings) ∧
      (∀ settings, inForce (start.history events) = some settings →
        ∀ later, (∀ other, .loaded (.ok other) ∉ k.history later) →
          (k.run later).occurrence .get = .got (.ok settings)) ∧
      (inForce (start.history events) = none → k.occurrence .get = .got (k.world.load none)) ∧
      (∀ path?, k.occurrence (.load path?) = .loaded (k.world.load path?)) ∧
      k.world = (events.reverse.findSome? SettingsEvent.changedTo?).getD world ∧
      ∀ event, (k.occurrence event).Failed → k.step event = k := by
  intro start k
  have hcache : k.cache = inForce (start.history events) := cache_run_of_none rfl events
  refine ⟨hcache, ?_, ?_, ?_, k.occurrence_load, start.world_run events, fun _ => step_of_failed⟩
  · -- A get that succeeds is itself part of the history.
    intro settings hgot
    have hafter : (start.run (events ++ [.get])).cache = some settings := by
      rw [run_append]
      exact cache_step_of_got hgot
    rw [← hafter, cache_run_of_none rfl]
  · intro settings hforce later hload
    exact occurrence_get_of_some (cache_run_of_some (hcache.trans hforce) hload)
  · intro hforce
    exact occurrence_get_of_none (hcache.trans hforce)

/-- A get that fails, one that succeeds once the environment has changed, a load that fails and one
that succeeds; then the environment changes again, and the settings that were loaded are got. -/
theorem get_in_force_after_failures :
    let seeded (seed limit : String) : SettingsWorld :=
      { env := [("DICE_SEED", seed), ("DICE_MAX_RANDS", limit)], files := [(".env", "")] }
    let settings (seed : Int) : Settings :=
      ⟨.development, .info, none, ⟨.text "NinjaSlayer", some seed, 5⟩⟩
    let start : SettingsKeeper := { world := seeded "1" "0", cache := none }
    let lazy : List SettingsEvent := [.get, .change (seeded "2" "5"), .get, .change (seeded "3" "0")]
    let loads : List SettingsEvent := [.load none, .change (seeded "4" "5"), .load (some "a")]
    let later : List SettingsEvent := [.change (seeded "5" "0"), .load (some ".env")]
    (start.run (lazy.take 1)).occurrence .get = .got ((seeded "1" "0").load none) ∧
      inForce (start.history lazy) = some (settings 2) ∧
      (start.run lazy).occurrence .get = .got (.ok (settings 2)) ∧
      (start.run lazy).step (.load none) = start.run lazy ∧
      inForce (start.history (lazy ++ loads)) = some (settings 4) ∧
      (∀ other, .loaded (.ok other) ∉ (start.run (lazy ++ loads)).history later) ∧
      ((start.run (lazy ++ loads)).run later).occurrence .get = .got (.ok (settings 4)) := by
  intro seeded settings start lazy loads later
  have hnone : inForce (start.history (lazy.take 1)) = none := by decide +kernel
  have hlazy : inForce (start.history lazy) = some (settings 2) := by decide +kernel
  have hloads : inForce (start.history (lazy ++ loads)) = some (settings 4) := by decide +kernel
  have hfailed : ((start.run lazy).occurrence (.load none)).Failed :=
    failed_iff.mpr ⟨nofun, by decide +kernel, rfl⟩
  have hlater : ∀ other, .loaded (.ok other) ∉ (start.run (lazy ++ loads)).history later :=
    lastLoaded_eq_none_iff.mp (by decide +kernel)
  obtain ⟨-, -, -, htries, -⟩ := get_in_force (seeded "1" "0") (lazy.take 1)
  obtain ⟨-, -, hgets, -, -, -, hkeeps⟩ := get_in_force (seeded "1" "0") lazy
  obtain ⟨-, -, hgets', -⟩ := get_in_force (seeded "1" "0") (lazy ++ loads)
  exact ⟨htries hnone, hlazy, hgets _ hlazy [] (fun _ => List.not_mem_nil), hkeeps _ hfailed,
    hloads, hlater, hgets' _ hloads later hlater⟩

end SettingsKeeper

end ChatDice

import Gamebook.Proofs.Keyed
import Gamebook.Proofs.Play.Played

/-!
# Saving and resuming

A snapshot holds all that a game has of its own. A game that is put where a snapshot was taken
therefore plays on like the game that was saved, whatever it went through before: the same moves at
the same readings of the clock give the same answers, states and logs.

## Key results

- `restore_capture`: a state and its log come back from their snapshot
- `load_save`: putting a game where it stands changes nothing
- `startOrResume_save`: a game that is built from the snapshot of another one is that game
- `trace_resume`: a game that was saved and one that resumes from the snapshot cannot be told apart
-/

namespace Gamebook

/-- A state comes back from its snapshot. -/
@[simp] theorem Snapshot.state_capture (s : State) (log : List Step) :
    (Snapshot.capture s log).state = s := by
  unfold Snapshot.capture Snapshot.state
  simp only [Keyed.ofList_entries, NameSet.ofNames_keys]

/-- A state and its log come back from their snapshot. -/
theorem Snapshot.restore_capture (s : State) (log : List Step) :
    (Snapshot.capture s log).restore = (s, log) := by
  unfold Snapshot.restore
  rw [state_capture]
  rfl

namespace Game

/-- Putting a game where it stands changes nothing. -/
@[simp] theorem load_save (game : Game) : game.load game.save = game := by
  unfold load save
  rw [Snapshot.state_capture]
  rfl

variable {activity : Activity} {rules : Rules} {one other : Game}

/-- Of a game that loads a snapshot only the story and the rules are left. -/
theorem load_congr (hone : OnStory activity rules one) (hother : OnStory activity rules other)
    (snapshot : Snapshot) : one.load snapshot = other.load snapshot := by
  unfold load
  rw [hone.activity_eq, hone.index_eq, hone.rules_eq, hother.activity_eq, hother.index_eq,
    hother.rules_eq]

/-- A game that is built from the snapshot of a game of the same story is that game. -/
theorem startOrResume_save (hone : OnStory activity rules one) (initial : InitialState)
    (now : Instant) : startOrResume activity rules initial (some one.save) now = one :=
  (load_congr (onStory_startOrResume activity rules initial none now) hone one.save).trans
    (load_save one)

/-- What can be seen of a game while it is played: after each move the answer, the state and the
log. -/
def trace (game : Game) : List (Readings × Move) → List (Answer × State × List Step)
  | [] => []
  | (clock, move) :: moves =>
    let (answer, next) := game.step clock move
    (answer, next.state, next.log) :: next.trace moves

/-- A game that was saved and one that resumes from its snapshot cannot be told apart: `loaded` is
any game of the story that loads the snapshot, and `resumed` is built from it. Moreover nothing that
the loading game had of its own plays a part, whatever snapshot it loads. -/
theorem trace_resume (activity : Activity) (rules : Rules) (past otherPast : Past)
    (initial : InitialState) (now : Instant) (moves : List (Readings × Move)) :
    let game := past.game activity rules
    let other := otherPast.game activity rules
    let loaded := other.load game.save
    let resumed := startOrResume activity rules initial (some game.save) now
    (loaded.state = game.state ∧ loaded.log = game.log ∧ loaded.trace moves = game.trace moves) ∧
    (resumed.state = game.state ∧ resumed.log = game.log ∧
      resumed.trace moves = game.trace moves) ∧
    ∀ snapshot : Snapshot,
      (other.load snapshot).trace moves = (game.load snapshot).trace moves ∧
      (startOrResume activity rules initial (some snapshot) now).trace moves =
        (game.load snapshot).trace moves := by
  intro game other loaded resumed
  have hgame : game.OnStory activity rules := past.onStory_game activity rules
  have hother : other.OnStory activity rules := otherPast.onStory_game activity rules
  have hstart : (start activity rules initial now).OnStory activity rules :=
    onStory_startOrResume activity rules initial none now
  -- Loading forgets the game that loads, so it is as if the saved game loaded its own snapshot.
  have hloaded : loaded = game := (load_congr hother hgame game.save).trans (load_save game)
  have hresumed : resumed = game := (load_congr hstart hgame game.save).trans (load_save game)
  refine ⟨⟨by rw [hloaded], by rw [hloaded], by rw [hloaded]⟩,
    ⟨by rw [hresumed], by rw [hresumed], by rw [hresumed]⟩, fun snapshot => ⟨?_, ?_⟩⟩
  · rw [load_congr hother hgame snapshot]
  · have hload : startOrResume activity rules initial (some snapshot) now = game.load snapshot :=
      load_congr hstart hgame snapshot
    rw [hload]

end Game

end Gamebook

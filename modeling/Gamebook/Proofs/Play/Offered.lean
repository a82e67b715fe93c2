import Gamebook.Proofs.Play.Effects
import Gamebook.Proofs.Play.Resume
import Gamebook.Proofs.Play.SceneIndex

/-!
# Plays that keep to the offer

A player who is shown the choices on offer takes one of them. Such a play may look around, ask for
anything, mark objectives and go back to what it saved itself, but it takes no hidden choice.

## Key results

- `Offered`: plays that take only choices on offer, and load only what they saved
- `Offered.induction`: what entering a scene, marking an objective and an offered choice keep, every
  such play keeps
-/

namespace Gamebook

namespace Game

/-- Whether a move keeps to the offer: a choice is on offer, and a snapshot was saved before. -/
def Offers (game : Game) (saved : List Snapshot) : Move → Prop
  | .choose choiceId => ∃ choice ∈ game.choices.1, choice.id = choiceId
  | .load snapshot => snapshot ∈ saved
  | _ => True

instance decidableOffers (game : Game) (saved : List Snapshot) :
    (move : Move) → Decidable (game.Offers saved move)
  | .choose choiceId =>
    inferInstanceAs (Decidable (∃ choice ∈ game.choices.1, choice.id = choiceId))
  | .load snapshot => inferInstanceAs (Decidable (snapshot ∈ saved))
  | .look | .peek | .choices | .peekChoices | .holds _ | .complete _ | .isComplete | .score
  | .save => isTrue trivial

/-- What has been saved after a move. -/
def savedAfter (game : Game) (saved : List Snapshot) : Move → List Snapshot
  | .save => game.save :: saved
  | _ => saved

/-- Whether all moves of a play keep to the offer of their moment, when some snapshots were saved
before. -/
def Offered (game : Game) (saved : List Snapshot) : List (Readings × Move) → Prop
  | [] => True
  | (clock, move) :: moves =>
    game.Offers saved move ∧
      Offered (game.step clock move).2 (game.savedAfter saved move) moves

instance decidableOffered (game : Game) (saved : List Snapshot) :
    (moves : List (Readings × Move)) → Decidable (game.Offered saved moves)
  | [] => isTrue trivial
  | (clock, move) :: moves =>
    have := decidableOffered (game.step clock move).2 (game.savedAfter saved move) moves
    inferInstanceAs (Decidable (_ ∧ _))

/-- The choices that are on offer are those of the scene, seen once it is entered. -/
theorem choices_of_peek {game : Game} {scene : Scene} (hpeek : game.peek = some scene) :
    game.choices.1 = offeredIn (game.state.visit scene.id) scene := by
  rw [choices_eq]
  unfold peekChoices
  rw [peek_entered, hpeek, entered_of_peek hpeek]

/-- What is offered is a choice of the scene whose conditions hold. -/
theorem mem_offeredIn {s : State} {scene : Scene} {choice : Choice} :
    choice ∈ offeredIn s scene ↔
      choice ∈ scene.choices ∧ Condition.allHold choice.conditions s.facts = true := by
  unfold offeredIn
  exact List.mem_filter

/-- What entering a scene, marking an objective and an offered choice keep, every play that keeps to
the offer keeps. -/
theorem Offered.induction {activity : Activity} {rules : Rules} (P : State → Prop)
    (henter : ∀ (s : State) (scene : Scene), scene.id = s.currentSceneId → P s →
      P (s.visit scene.id))
    (hcomplete : ∀ (s : State) (objective : String), P s → P (s.complete objective))
    (hchoose : ∀ (game : Game) (now : Instant) (scene : Scene) (offer choice : Choice),
      game.OnStory activity rules → game.peek = some scene →
      offer ∈ offeredIn (game.state.visit scene.id) scene →
      scene.choice? offer.id = some choice → P game.state → P (game.after scene choice now).state)
    (moves : List (Readings × Move)) (game : Game) (saved : List Snapshot)
    (hmoves : game.Offered saved moves) (hgame : game.OnStory activity rules)
    (hsaved : ∀ snapshot ∈ saved, P snapshot.state) (h : P game.state) :
    P (game.played moves).state := by
  -- On the moves, with what was saved so far.
  induction moves generalizing game saved with
  | nil => exact h
  | cons m moves ih =>
    obtain ⟨clock, move⟩ := m
    obtain ⟨hoffer, hrest⟩ := hmoves
    -- What is saved now holds the present state, so all that can be loaded has the property.
    have hsaved' : ∀ snapshot ∈ game.savedAfter saved move, P snapshot.state := by
      intro snapshot hmem
      unfold savedAfter at hmem
      split at hmem
      next =>
        rcases List.mem_cons.1 hmem with rfl | hmem
        · rw [save, Snapshot.state_capture]
          exact h
        · exact hsaved snapshot hmem
      next => exact hsaved snapshot hmem
    have hstep : P (game.step clock move).2.state := by
      have hchange := change_step game clock move
      generalize (game.step clock move).2 = next at hchange ⊢
      cases hchange with
      | stay => exact h
      | enter _ hpeek => exact henter game.state _ (hgame.id_of_peek hpeek) h
      | complete objective => exact hcomplete game.state objective h
      | load snapshot => exact hsaved snapshot hoffer
      | take hpeek hchoice =>
        -- The choice on offer need not be the one that is found, if ids are repeated.
        obtain ⟨offer, hmem, rfl⟩ := hoffer
        rw [choices_of_peek hpeek] at hmem
        exact hchoose game clock.first _ offer _ hgame hpeek hmem hchoice h
    exact ih (game.step clock move).2 (game.savedAfter saved move) hrest
      (onStory_step clock move hgame) hsaved' hstep

end Game

end Gamebook

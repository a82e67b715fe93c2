import Gamebook.Proofs.Play.Pausing

/-!
# Looking around

To look at a scene is to enter it, and to peek is not. The two see the same scene, and the same
choices once the scene is entered. Before that they can differ only in choices that depend on
whether the player has been in this very scene. Entering a scene again changes nothing, and taking a
choice enters its scene anyway, so that looks leave no trace behind a choice.

## Key results

- `Move.looks`: the moves that look
- `Condition.holds_visit`: entering a scene matters only to conditions on that scene
- `peekChoices_eq_choices`: when peeking before the scene is entered sees what looking sees
- `played_looks`: any number of looks enter the scene and do no more
- `choose_entered`: a choice in a scene that is entered does what it would have done before
- `peeking_agrees`: so peeking and looking agree
-/

namespace Gamebook

/-- Whether a move looks at the scene or at its choices, and so enters it. -/
def Move.looks : Move → Bool
  | .look | .choices => true
  | _ => false

/-- Whether a condition asks if a scene has been entered. -/
def Condition.AsksFor (c : Condition) (scene : String) : Prop :=
  c.aspect = .visited ∧ c.key = scene

instance (c : Condition) (scene : String) : Decidable (c.AsksFor scene) :=
  inferInstanceAs (Decidable (_ ∧ _))

/-- Entering a scene that was entered before changes no answer to whether a scene was entered. -/
theorem State.hasVisited_visit_of_visited {s : State} {scene : String}
    (h : s.hasVisited scene = true) (id : String) :
    (s.visit scene).hasVisited id = s.hasVisited id := by
  rw [hasVisited_visit]
  by_cases hid : id = scene
  · rw [hid, h, Bool.or_true]
  · rw [decide_eq_false hid, Bool.false_or]

/-- Entering a scene matters only to conditions that ask for the scene, and only if it was not
entered before. -/
theorem Condition.holds_visit {c : Condition} {s : State} {scene : String}
    (h : s.hasVisited scene = true ∨ ¬ c.AsksFor scene) :
    c.holds (s.visit scene).facts = c.holds s.facts := by
  -- All that conditions can learn is as before, but for the scenes that were entered.
  have hvisited : c.aspect = .visited →
      (s.visit scene).hasVisited c.key = s.hasVisited c.key := by
    intro haspect
    rcases h with h | h
    · exact State.hasVisited_visit_of_visited h c.key
    · have hkey : c.key ≠ scene := fun hkey => h ⟨haspect, hkey⟩
      rw [State.hasVisited_visit, decide_eq_false hkey, Bool.false_or]
  obtain ⟨aspect, key, value, operator⟩ := c
  cases aspect with
  | visited =>
    show operator.compare (some (.bool ((s.visit scene).hasVisited key))) value =
      operator.compare (some (.bool (s.hasVisited key))) value
    rw [hvisited rfl]
  | _ => rfl

namespace Game

variable {game : Game}

/-! ## What is seen -/

/-- Peeking before the scene is entered sees the choices that looking sees, if the scene was entered
before or none of its choices asks for it. -/
theorem peekChoices_eq_choices
    (h : ∀ scene ∈ game.peek, game.state.hasVisited scene.id = true ∨
      ∀ choice ∈ scene.choices, ∀ c ∈ choice.conditions, ¬ c.AsksFor scene.id) :
    game.peekChoices = game.choices.1 := by
  cases hpeek : game.peek with
  | none => rw [choices_eq, entered_of_peek_none hpeek]
  | some scene =>
    -- With the scene entered the same choices are filtered by the same conditions.
    have hseen : game.peekChoices = offeredIn game.state scene := by
      unfold peekChoices
      rw [hpeek]
    rw [hseen, choices_of_peek hpeek]
    refine List.filter_congr fun choice hchoice => ?_
    -- Each condition of the choice has the same answer before and after.
    have hholds : ∀ c ∈ choice.conditions,
        c.holds (game.state.visit scene.id).facts = c.holds game.state.facts := fun c hc =>
      Condition.holds_visit ((h scene hpeek).imp_right fun hnone => hnone choice hchoice c hc)
    unfold Condition.allHold
    rw [Bool.eq_iff_iff, List.all_eq_true, List.all_eq_true]
    exact forall₂_congr fun c hc => by rw [hholds c hc]

/-! ## What is changed -/

/-- A look enters the scene. -/
theorem step_of_looks (clock : Readings) {move : Move} (hmove : move.looks = true) :
    (game.step clock move).2 = game.entered := by
  cases move with
  | look => rw [step_look]
  | choices => rw [step_choices]
  | _ => cases hmove

/-- Any number of looks enter the scene and do no more. -/
theorem played_looks {looks : List (Readings × Move)} (hlooks : ∀ m ∈ looks, m.2.looks = true)
    (hne : looks ≠ []) : game.played looks = game.entered := by
  induction looks generalizing game with
  | nil => exact absurd rfl hne
  | cons m looks ih =>
    have hrest : ∀ m ∈ looks, m.2.looks = true := fun m hm => hlooks m (List.mem_cons_of_mem _ hm)
    rw [played_cons, step_of_looks m.1 (hlooks m List.mem_cons_self)]
    -- A second look enters what was entered.
    by_cases hlast : looks = []
    · rw [hlast, played_nil]
    · rw [ih hrest hlast, entered_entered]

/-- Entering a scene changes only which scenes were entered. -/
theorem entered_eq_visited (game : Game) :
    game.entered =
      { game with state := { game.state with visited := game.entered.state.visited } } := by
  cases hpeek : game.peek with
  | none => rw [entered_of_peek_none hpeek]
  | some scene =>
    rw [entered_of_peek hpeek]
    rfl

/-- A choice leads on from a scene that is entered as it would have led on before. -/
theorem after_entered {scene : Scene} (hpeek : game.peek = some scene) (choice : Choice)
    (now : Instant) : game.entered.after scene choice now = game.after scene choice now := by
  have hstate : stateAfter (game.state.visit scene.id) scene choice now =
      stateAfter game.state scene choice now := by
    unfold stateAfter
    rw [State.visit_visit]
  rw [after_eq, after_eq, entered_of_peek hpeek]
  show { game with state := _, log := _ } = { game with state := _, log := _ }
  simp only [hstate]
  rfl

/-- In a scene that is entered the same choices are found as before. -/
theorem find_entered (game : Game) (choiceId : String) :
    game.entered.find choiceId = game.find choiceId := by
  cases hpeek : game.peek with
  | none => rw [entered_of_peek_none hpeek]
  | some scene => rw [find, find, peek_entered, hpeek]

/-- A choice in a scene that is entered does what it would have done before. -/
theorem choose_entered {clock : Readings} {choiceId : String} {reply : Outcome} {next : Game}
    (h : game.choose clock choiceId = (.ok reply, next)) :
    game.entered.choose clock choiceId = (.ok reply, next) := by
  obtain ⟨scene, choice, hpeek, hchoice, rfl, rfl⟩ := choose_eq_ok_iff.1 h
  have hthere : game.entered.peek = some scene := (peek_entered game).trans hpeek
  rw [← after_entered hpeek]
  exact choose_eq_ok_iff.2 ⟨scene, choice, hthere, hchoice, rfl, rfl⟩

/-- A choice in a scene that is entered is answered as it would have been before: with the same
outcome, or with the same refusal. -/
theorem choose_entered_fst (game : Game) (clock : Readings) (choiceId : String) :
    (game.entered.choose clock choiceId).1 = (game.choose clock choiceId).1 := by
  cases hfind : game.find choiceId with
  | error refusal =>
    rw [choose_error hfind, choose_error ((find_entered game choiceId).trans hfind)]
  | ok found => rw [choose_ok hfind, choose_entered (choose_ok hfind clock)]

/-- However a game came about, looking and peeking see the scene that the story has under the
current id, and looking at the choices sees what peeking sees right after it. Peeking before it sees
the same choices in the same order, if the scene was entered before or none of its choices asks for
it. Any number of looks change no more than the first, which changes nothing but the scenes that
were entered; and whatever choice is made after them has the same outcome as without them, and
leads to the same state and log, or has the same refusal. -/
theorem peeking_agrees (activity : Activity) (rules : Rules) (past : Past) :
    let game := past.game activity rules
    game.peek = activity.scene? game.state.currentSceneId ∧ game.look.1 = game.peek ∧
    game.choices.1 = game.choices.2.peekChoices ∧
    ((∀ scene ∈ game.peek, game.state.hasVisited scene.id = true ∨
        ∀ choice ∈ scene.choices, ∀ c ∈ choice.conditions, ¬ c.AsksFor scene.id) →
      game.peekChoices = game.choices.1) ∧
    ∀ looks : List (Readings × Move), (∀ m ∈ looks, m.2.looks = true) →
      (looks ≠ [] → game.played looks = game.look.2 ∧ game.played looks = game.choices.2) ∧
      game.played looks = { game with
        state := { game.state with visited := (game.played looks).state.visited } } ∧
      ∀ clock choiceId,
        ((game.played looks).choose clock choiceId).1 = (game.choose clock choiceId).1 ∧
        ∀ reply next, game.choose clock choiceId = (.ok reply, next) →
          (game.played looks).choose clock choiceId = (.ok reply, next) := by
  intro game
  have hgame : game.OnStory activity rules := past.onStory_game activity rules
  rw [look_eq, choices_eq]
  refine ⟨hgame.scene?_eq _, rfl, rfl, fun h => ?_, fun looks hlooks => ?_⟩
  · rw [peekChoices_eq_choices h, choices_eq]
  -- Looks have entered the scene, or there were none.
  -- Without any look the game is as it was.
  by_cases hne : looks = []
  · subst hne
    exact ⟨fun hne => absurd rfl hne, rfl, fun _ _ => ⟨rfl, fun _ _ h => h⟩⟩
  · have hentered : game.played looks = game.entered := played_looks hlooks hne
    rw [hentered]
    exact ⟨fun _ => ⟨rfl, rfl⟩, entered_eq_visited game, fun clock choiceId =>
      ⟨choose_entered_fst game clock choiceId, fun _ _ => choose_entered⟩⟩

/-! ### Up in the attic -/

/-- A story in which some choices depend on where the player has been. -/
def atticStory : Activity where
  id := "attic"
  title := "Attic"
  startingSceneId := "attic"
  scenes :=
    [{ id := "attic", title := "Attic", description := ""
       choices :=
        [{ id := "search", text := "Search again", nextSceneId := "attic"
           conditions := [.visited "attic"] },
         { id := "descend", text := "Climb down", nextSceneId := "cellar" }] },
     { id := "cellar", title := "Cellar", description := ""
       choices :=
        [{ id := "return", text := "Back up", nextSceneId := "attic"
           conditions := [.visited "attic"] },
         { id := "yield", text := "Give up", nextSceneId := "exit"
           conditions := [.visited "exit"] }] }]

/-- Looks at the scene and at its choices. -/
def atticLooks : List (Readings × Move) := [(.epoch, .choices), (.epoch, .look), (.epoch, .choices)]

/-- In the cellar, which no choice of it asks for, peeking sees what looking sees. In the attic it
does not, since a choice asks for the attic; but looking around there leaves no trace once the
player climbs down. -/
theorem peeking_agrees_atticStory :
    let attic := ({ builtAt := .epoch } : Past).game atticStory {}
    let cellar :=
      ({ builtAt := .epoch, moves := [(.epoch, .choose "descend")] } : Past).game atticStory {}
    (∀ scene ∈ cellar.peek, cellar.state.hasVisited scene.id = true ∨
      ∀ choice ∈ scene.choices, ∀ c ∈ choice.conditions, ¬ c.AsksFor scene.id) ∧
    cellar.state.hasVisited "cellar" = false ∧
    cellar.peekChoices = cellar.choices.1 ∧ cellar.choices.1.map (·.id) = ["return"] ∧
    attic.peekChoices.map (·.id) = ["descend"] ∧
    attic.choices.1.map (·.id) = ["search", "descend"] ∧
    (∀ m ∈ atticLooks, m.2.looks = true) ∧ atticLooks ≠ [] ∧
    attic.played atticLooks = attic.look.2 ∧
    ∃ reply next, attic.choose .epoch "descend" = (.ok reply, next) ∧
      (attic.played atticLooks).choose .epoch "descend" = (.ok reply, next) := by
  intro attic cellar
  have hlooks : ∀ m ∈ atticLooks, m.2.looks = true := by decide
  -- The attic asks for itself in a condition, and the cellar does not.
  obtain ⟨-, -, -, hsame, -⟩ := peeking_agrees atticStory {}
    { builtAt := .epoch, moves := [(.epoch, .choose "descend")] }
  obtain ⟨-, -, -, -, hall⟩ := peeking_agrees atticStory {} { builtAt := .epoch }
  obtain ⟨hlast, -, hchoose⟩ := hall atticLooks hlooks
  have hcellar : ∀ scene ∈ cellar.peek, cellar.state.hasVisited scene.id = true ∨
      ∀ choice ∈ scene.choices, ∀ c ∈ choice.conditions, ¬ c.AsksFor scene.id := by decide
  obtain ⟨reply, next, hdescend⟩ :
      ∃ reply next, attic.choose .epoch "descend" = (.ok reply, next) := ⟨_, _, rfl⟩
  exact ⟨hcellar, by decide, hsame hcellar, by decide, by decide, by decide, hlooks, by decide,
    (hlast (by decide)).1, reply, next, hdescend,
    (hchoose .epoch "descend").2 reply next hdescend⟩

end Game

end Gamebook

import Gamebook.Play.Dialogue
import Gamebook.Proofs.Play.Offered

/-!
# Pausing a dialogue

A script that runs out leaves the game with its scene entered, and showing the scene again is what a
dialogue begins with anyway. So a dialogue that goes on from there shows and does what it would have
shown and done with all inputs at once.

## Key results

- `prompt_entered`: a scene that is entered is shown as before
- `TakesAll`: whether a story goes on through all inputs of a script
- `converse_of_choose`: a dialogue goes on from the choice that its first input means
- `TakesAll.converse_append`: a dialogue of two scripts in a row, the first of which is taken
- `converse_entered`: a dialogue may begin with the scene entered
- `TakesAll.pause`: a dialogue goes on from the game in which a script that is taken ends
- `converse_induction`: what entering a scene and taking a choice keep, a whole dialogue keeps
- `scriptInputs_append`: the inputs of two scripts in a row
-/

namespace Gamebook

/-! ## Entering a scene again -/

/-- A scene that was entered may be entered again. -/
@[simp] theorem State.visit_visit (s : State) (scene : String) :
    (s.visit scene).visit scene = s.visit scene := by
  unfold State.visit
  rw [NameSet.add_add]

namespace Game

/-- A scene that is entered is not entered again. -/
@[simp] theorem entered_entered (game : Game) : game.entered.entered = game.entered := by
  cases hpeek : game.peek with
  | none => rw [entered_of_peek_none hpeek, entered_of_peek_none hpeek]
  | some scene =>
    have hthere : game.entered.peek = some scene := (peek_entered game).trans hpeek
    rw [entered_of_peek hthere, entered_of_peek hpeek]
    simp only [State.visit_visit]

/-- A scene that is entered is shown as before. -/
theorem prompt_entered (game : Game) : game.entered.prompt = game.prompt := by
  unfold prompt
  rw [look_eq, look_eq, peek_entered, entered_entered]

/-- A prompt enters the scene and offers its choices. -/
theorem offered_prompt (game : Game) :
    game.prompt.1.offered = game.choices.1 ∧ game.prompt.2 = game.choices.2 := by
  unfold prompt
  simp only [look_eq, choices_eq]
  cases hpeek : game.peek with
  | none =>
    -- There is nothing on offer where there is no scene.
    have hnone : game.entered.peekChoices = [] := by
      unfold peekChoices
      rw [peek_entered, hpeek]
    exact ⟨hnone.symm, rfl⟩
  | some scene =>
    simp only [entered_entered]
    cases hoffer : game.entered.peekChoices with
    | nil => exact ⟨rfl, rfl⟩
    | cons choice offer => exact ⟨rfl, rfl⟩

end Game

/-! ## Dialogues in parts -/

namespace Dialogue

/-- Nothing before a dialogue is the dialogue. -/
@[simp] theorem after_empty (dialogue : Dialogue) : dialogue.after "" = dialogue := by
  unfold Dialogue.after
  simp

/-- What comes before a dialogue may come in parts. -/
@[simp] theorem after_after (dialogue : Dialogue) (first second : String) :
    (dialogue.after second).after first = dialogue.after (first ++ second) := by
  unfold Dialogue.after
  simp [String.append_assoc]

end Dialogue

namespace Game

/-- Whether a story goes on through all inputs of a script, to the game `last`: each of them means a
choice on offer, and none completes the story. -/
inductive TakesAll : Game → List (Readings × String) → Game → Prop
  | nil (game : Game) : TakesAll game [] game
  | cons {game next last : Game} {clock : Readings} {input choiceId : String}
    {inputs : List (Readings × String)} {outcome : Outcome} (hquit : input ≠ "quit")
    (hresolve : resolve? input game.choices.1 = some choiceId)
    (hchoose : game.choices.2.choose clock choiceId = (.ok outcome, next))
    (hopen : outcome.isComplete = false) (hrest : TakesAll next inputs last) :
    TakesAll game ((clock, input) :: inputs) last

variable {game last : Game}

/-- A position in an empty list, or an id in it, is that of no choice. -/
theorem resolve?_nil (input : String) : resolve? input [] = none := by
  unfold resolve?
  split <;> rfl

/-- An input that means a choice is answered with what follows from the choice. -/
theorem turn_of_choose (source : Source) {offered : List Choice} {clock : Readings}
    {input choiceId : String} {outcome : Outcome} {next : Game} (hquit : input ≠ "quit")
    (hresolve : resolve? input offered = some choiceId)
    (hchoose : game.choose clock choiceId = (.ok outcome, next)) :
    source.turn offered game clock input =
      ⟨source.echo input ++ outcome.shown, next, outcome.score.map .finished⟩ := by
  unfold Source.turn
  simp only [if_neg hquit, hresolve, hchoose]

/-- A dialogue whose first input means a choice on offer goes on from the game after that choice,
unless the choice completes the story. -/
theorem converse_of_choose (source : Source) {clock : Readings} {input choiceId : String}
    {outcome : Outcome} {next : Game} (hquit : input ≠ "quit")
    (hresolve : resolve? input game.choices.1 = some choiceId)
    (hchoose : game.choices.2.choose clock choiceId = (.ok outcome, next))
    (inputs : List (Readings × String)) :
    source.converse game ((clock, input) :: inputs) =
      let shown := game.prompt.1.text ++ source.cue ++ (source.echo input ++ outcome.shown)
      match outcome.score with
      | some score => ⟨shown, next, .finished score⟩
      | none => (source.converse next inputs).after shown := by
  obtain ⟨hoffered, hentered⟩ := game.offered_prompt
  -- The prompt offers what the input was taken from.
  have hturn : source.turn game.prompt.1.offered game.prompt.2 clock input =
      ⟨source.echo input ++ outcome.shown, next, outcome.score.map .finished⟩ := by
    rw [hoffered, hentered]
    exact turn_of_choose source hquit hresolve hchoose
  -- With nothing on offer, no input would mean a choice.
  have hoffer : game.prompt.1.offered.isEmpty = false := by
    rw [hoffered]
    cases hlist : game.choices.1 with
    | nil =>
      rw [hlist, resolve?_nil] at hresolve
      cases hresolve
    | cons choice offer => rfl
  rw [Source.converse]
  simp only [hoffer, Bool.false_eq_true, if_false, hturn]
  cases outcome.score <;> rfl

/-- A dialogue of two scripts in a row, the first of which is taken, goes on with the second. -/
theorem TakesAll.converse_append {inputs : List (Readings × String)}
    (h : game.TakesAll inputs last) :
    ∃ shown, ∀ more, Source.script.converse game (inputs ++ more) =
      (Source.script.converse last more).after shown := by
  -- Over the inputs that are taken, for any script that may follow.
  induction h with
  | nil game => exact ⟨"", fun more => (Dialogue.after_empty _).symm⟩
  | @cons game next last clock input choiceId inputs outcome hquit hresolve hchoose hopen _ ih =>
    obtain ⟨shown, hshown⟩ := ih
    -- A choice that leaves the story open brings no score, so the dialogue goes on.
    have hscore : outcome.score = none :=
      Option.not_isSome_iff_eq_none.1 (Bool.eq_false_iff.1 hopen)
    refine ⟨game.prompt.1.text ++ Source.script.cue ++
      (Source.script.echo input ++ outcome.shown) ++ shown, fun more => ?_⟩
    rw [List.cons_append, converse_of_choose .script hquit hresolve hchoose, hscore, hshown more]
    exact Dialogue.after_after ..

end Game

namespace Source

variable {source : Source} {game : Game}

/-- A dialogue may begin with the scene entered. -/
theorem converse_entered (source : Source) (game : Game) (inputs : List (Readings × String)) :
    source.converse game.entered inputs = source.converse game inputs := by
  cases inputs with
  | nil => simp only [converse, Game.prompt_entered]
  | cons first inputs => simp only [converse, Game.prompt_entered]

/-- A dialogue without inputs pauses with the scene entered. -/
theorem converse_nil (source : Source) (game : Game) :
    (source.converse game []).close = .paused ∧ (source.converse game []).game = game.entered := by
  refine ⟨rfl, game.offered_prompt.2.trans ?_⟩
  rw [Game.choices_eq]

/-- What taking a choice keeps, every answer to an input keeps. -/
private theorem game_turn (P : Game → Prop) {offered : List Choice} {clock : Readings}
    (hchoose : ∀ choiceId outcome next, game.choose clock choiceId = (.ok outcome, next) → P next)
    (h : P game) (input : String) : P (source.turn offered game clock input).game := by
  unfold turn
  simp only
  -- Whatever is no choice, or is refused, leaves the game as it is.
  split
  · exact h
  · split
    · split <;> exact h
    · split
      · rename_i refusal next hnext
        rw [Game.eq_of_choose_error hnext]
        exact h
      · rename_i outcome next hnext
        exact hchoose _ outcome next hnext

/-- What entering a scene and taking a choice at one of the times keep, a whole dialogue keeps. -/
theorem converse_induction (P : Game → Prop) (henter : ∀ game : Game, P game → P game.entered)
    (inputs : List (Readings × String))
    (hchoose : ∀ input ∈ inputs, ∀ game choiceId outcome next, P game →
      game.choose input.1 choiceId = (.ok outcome, next) → P next)
    (h : P game) : P (source.converse game inputs).game := by
  induction inputs generalizing game with
  -- With no input left, the scene is entered and the dialogue ends.
  | nil =>
    rw [(converse_nil source game).2]
    exact henter game h
  | cons first inputs ih =>
    obtain ⟨clock, input⟩ := first
    have hentered : P game.prompt.2 := by
      rw [game.offered_prompt.2, Game.choices_eq]
      exact henter game h
    have hturn : P (source.turn game.prompt.1.offered game.prompt.2 clock input).game :=
      game_turn P
        (fun choiceId outcome next hnext =>
          hchoose (clock, input) List.mem_cons_self _ choiceId outcome next hentered hnext)
        hentered input
    rw [converse]
    simp only
    -- Without an offer the dialogue ends before the input, and after some answers it ends there.
    split
    · exact hentered
    · split
      · exact hturn
      · exact ih (fun input hinput => hchoose input (List.mem_cons_of_mem _ hinput)) hturn

end Source

/-- A script that is taken ends in a pause, and a dialogue with more inputs goes on from the game
there. -/
theorem Game.TakesAll.pause {game last : Game} {inputs : List (Readings × String)}
    (h : game.TakesAll inputs last) :
    (Source.script.converse game inputs).close = .paused ∧
      ∃ shown, ∀ more, Source.script.converse game (inputs ++ more) =
        (Source.script.converse (Source.script.converse game inputs).game more).after shown := by
  obtain ⟨shown, hshown⟩ := h.converse_append
  -- The first part is the whole with nothing more to come.
  have hpause : Source.script.converse game inputs =
      (Source.script.converse last []).after shown := by
    rw [← hshown [], List.append_nil]
  -- The script runs out with the scene entered, where the dialogue may as well begin.
  have hentered : (Source.script.converse game inputs).game = last.entered := by
    rw [hpause]
    exact (Source.converse_nil .script last).2
  refine ⟨by rw [hpause]; rfl, shown, fun more => ?_⟩
  rw [hshown more, hentered, Source.converse_entered]

/-! ## Scripts in a row -/

/-- The pieces of two texts with the separator between them. -/
private theorem splitAt_go_append (separator : Char) (piece first second : List Char) :
    Text.splitAt.go separator piece (first ++ separator :: second) =
      Text.splitAt.go separator piece first ++ Text.splitAt.go separator [] second := by
  induction first generalizing piece with
  | nil => simp [Text.splitAt.go]
  | cons c first ih =>
    -- A separator in the first text ends a piece there, and changes nothing for what follows.
    by_cases hc : c = separator
    · simp [Text.splitAt.go, hc, ih]
    · simp [Text.splitAt.go, hc, ih]

/-- The inputs of two scripts in a row are those of the first and then those of the second. -/
theorem scriptInputs_append (first second : String) :
    scriptInputs (first ++ "," ++ second) = scriptInputs first ++ scriptInputs second := by
  have hpieces : Text.splitAt ',' (first ++ "," ++ second) =
      Text.splitAt ',' first ++ Text.splitAt ',' second := by
    unfold Text.splitAt
    rw [← splitAt_go_append, String.toList_append, String.toList_append, List.append_assoc]
    rfl
  unfold scriptInputs
  rw [hpieces, List.map_append, List.filter_append]

end Gamebook

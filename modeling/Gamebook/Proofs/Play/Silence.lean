import Gamebook.Play.Request
import Gamebook.Proofs.Play.Effects
import Gamebook.Proofs.Play.SceneIndex

/-!
# Requests that leave no trace

A question changes nothing, and neither does a choice that is refused. Whatever else is asked of a
game, it is replied to as if these requests had never been made.

## Key results

- `Exchange.isSilent`: questions, and choices that are refused
- `ask_of_isSilent`: a silent request leaves the game as it is
- `transcript_filter`: a game replies to the other requests as if the silent ones had not been made,
  and ends as the same game
- `refused_iff`: which choices are refused, and why
- `asked_of_peek_eq_none`: where there is no scene, only objectives can still be marked
-/

namespace Gamebook

/-- Whether a move only asks for something. -/
def Move.isQuestion : Move → Bool
  | .peek | .peekChoices | .holds _ | .isComplete | .score | .save => true
  | .look | .choices | .choose _ | .complete _ | .load _ => false

namespace Request

/-- Whether a request only asks for something. -/
def isQuestion : Request → Bool
  | .move m => m.isQuestion
  | _ => true

/-- Whether a request puts a saved game in place of the present one. -/
def isLoad : Request → Bool
  | .move m => m.isLoad
  | _ => false

end Request

/-- Whether a reply refuses a choice. -/
def Reply.isRefusal : Reply → Bool
  | .answer (.refused _) => true
  | _ => false

namespace Exchange

/-- Whether nothing was changed: a question was asked, or a choice was refused. -/
def isSilent (exchange : Exchange) : Bool :=
  exchange.request.isQuestion || exchange.reply.isRefusal

/-- What was asked at which time. -/
def asked (exchange : Exchange) : Readings × Request := (exchange.clock, exchange.request)

end Exchange

namespace Game

variable {activity : Activity} {rules : Rules} {game : Game}

/-- A move is replied to by its answer. -/
theorem ask_move (game : Game) (clock : Readings) (move : Move) :
    game.ask clock (.move move) = (.answer (game.step clock move).1, (game.step clock move).2) :=
  rfl

/-- A silent request leaves the game as it is. -/
theorem ask_of_isSilent (game : Game) (clock : Readings) (request : Request)
    (h : (⟨clock, request, (game.ask clock request).1⟩ : Exchange).isSilent = true) :
    (game.ask clock request).2 = game := by
  cases request with
  | move move =>
    cases move with
    | choose choiceId =>
      cases hfind : game.find choiceId with
      | error refusal =>
        rw [ask_move, step_choose_error hfind]
      | ok found =>
        -- A choice that is taken is no refusal.
        obtain ⟨scene, choice⟩ := found
        rw [ask_move, step_choose_ok hfind] at h
        cases h
    -- The moves that are left are no questions, and their replies refuse nothing.
    | look | choices | complete | load => cases h
    | _ => rfl
  | _ => rfl

/-- Without the silent requests the others have the same replies, and the game ends the same. -/
theorem transcript_filter (game : Game) (requests : List (Readings × Request)) :
    let heard := (game.transcript requests).filter (!·.isSilent)
    game.transcript (heard.map Exchange.asked) = heard ∧
      game.asked (heard.map Exchange.asked) = game.asked requests := by
  -- Over the requests, for any game, since those that are heard change it.
  induction requests generalizing game with
  | nil => exact ⟨rfl, rfl⟩
  | cons timed requests ih =>
    obtain ⟨clock, request⟩ := timed
    let first : Exchange := ⟨clock, request, (game.ask clock request).1⟩
    obtain ⟨hreplies, hend⟩ := ih (game.ask clock request).2
    intro heard
    have hheard : heard =
        (first :: (game.ask clock request).2.transcript requests).filter (!·.isSilent) := rfl
    cases hsilent : first.isSilent with
    | true =>
      -- The game goes on as it was, so the rest of the transcript is that of the game itself.
      have hsame := ask_of_isSilent game clock request hsilent
      rw [List.filter_cons_of_neg (by simp [hsilent])] at hheard
      rw [hsame] at hreplies hend
      show _ ∧ _ = (game.ask clock request).2.asked requests
      rw [hheard, hsame]
      exact ⟨hreplies, hend⟩
    | false =>
      rw [List.filter_cons_of_pos (by simp [hsilent])] at hheard
      rw [hheard]
      exact ⟨congrArg (first :: ·) hreplies, hend⟩

/-! ## Refusals -/

/-- A choice is refused exactly if the story has no scene with the current id, or the scene has no
choice with the id that is asked for. -/
theorem refused_iff (hgame : OnStory activity rules game) (clock : Readings)
    (choiceId : String) (refusal : Refusal) :
    (game.choose clock choiceId).1 = .error refusal ↔
      (activity.scene? game.state.currentSceneId = none ∧
        refusal = .noCurrentScene game.state.currentSceneId) ∨
      ∃ scene, activity.scene? game.state.currentSceneId = some scene ∧
        (∀ choice ∈ scene.choices, choice.id ≠ choiceId) ∧
        refusal = .unknownChoice scene.id choiceId := by
  -- The index of the scenes answers as the story does.
  rw [← hgame.scene?_eq]
  show _ ↔ (game.peek = none ∧ _) ∨ ∃ scene, game.peek = some scene ∧ _
  unfold choose find
  cases game.peek with
  | none => simp [eq_comm]
  | some scene =>
    cases hchoice : scene.choice? choiceId with
    | none =>
      have hnone : ∀ choice ∈ scene.choices, choice.id ≠ choiceId := by
        simpa [Scene.choice?] using hchoice
      simp only [hchoice, Except.error.injEq, reduceCtorEq, false_and, false_or, Option.some.injEq]
      constructor
      · rintro rfl
        exact ⟨scene, rfl, hnone, rfl⟩
      · rintro ⟨_, rfl, -, rfl⟩
        rfl
    | some choice =>
      have hmem : choice ∈ scene.choices := List.mem_of_find?_eq_some hchoice
      have hid : choice.id = choiceId := by simpa using List.find?_some hchoice
      simp only [hchoice, reduceCtorEq, false_and, false_or, Option.some.injEq, false_iff]
      rintro ⟨_, rfl, hother, -⟩
      exact hother choice hmem hid

/-- The reply to a choice is a refusal exactly if the choice is refused. -/
theorem ask_choose_eq_refused_iff (game : Game) (clock : Readings) (choiceId : String)
    (refusal : Refusal) :
    (game.ask clock (.move (.choose choiceId))).1 = .answer (.refused refusal) ↔
      (game.choose clock choiceId).1 = .error refusal := by
  rw [ask_move]
  cases hfind : game.find choiceId with
  | error other => simp [step_choose_error hfind, choose_error hfind]
  | ok found => simp [step_choose_ok hfind, choose_ok hfind]

/-- A choice that is refused changes nothing. -/
theorem ask_choose_of_refused {clock : Readings} {choiceId : String} {refusal : Refusal}
    (h : (game.ask clock (.move (.choose choiceId))).1 = .answer (.refused refusal)) :
    (game.ask clock (.move (.choose choiceId))).2 = game := by
  refine ask_of_isSilent game clock _ ?_
  rw [h]
  rfl

/-! ## Where there is no scene -/

/-- Where there is no scene, a request can do no more than mark an objective. -/
theorem ask_of_peek_eq_none (hpeek : game.peek = none) (clock : Readings) {request : Request}
    (hrequest : request.isLoad = false) :
    ∃ objectives, (game.ask clock request).2 =
      { game with state := { game.state with completedObjectives := objectives } } := by
  -- Whatever else is asked leaves the game, and so the objectives, as they are.
  have hstay : ∀ next : Game, next = game → ∃ objectives, next =
      { game with state := { game.state with completedObjectives := objectives } } :=
    fun next hnext => ⟨game.state.completedObjectives, hnext⟩
  cases request with
  | move move =>
    rw [ask_move]
    have hchange := change_step game clock move
    generalize (game.step clock move).2 = next at hchange ⊢
    cases hchange with
    | stay => exact hstay game rfl
    | enter _ hthere => rw [hpeek] at hthere; cases hthere
    | complete objective =>
      obtain ⟨objectives, hstate⟩ := State.exists_complete_eq game.state objective
      exact ⟨objectives, congrArg (fun s => { game with state := s }) hstate⟩
    | load snapshot => cases hrequest
    | take hthere => rw [hpeek] at hthere; cases hthere
  | _ => exact hstay game rfl

/-- Where there is no scene, requests can do no more than mark objectives. -/
theorem asked_of_peek_eq_none (requests : List (Readings × Request)) (hpeek : game.peek = none)
    (hrequests : ∀ r ∈ requests, r.2.isLoad = false) :
    ∃ objectives, game.asked requests =
      { game with state := { game.state with completedObjectives := objectives } } := by
  induction requests generalizing game with
  | nil => exact ⟨game.state.completedObjectives, rfl⟩
  | cons timed requests ih =>
    obtain ⟨objectives, hnext⟩ :=
      ask_of_peek_eq_none hpeek timed.1 (hrequests timed List.mem_cons_self)
    -- Objectives have no part in where the player is.
    have hpeek' : (game.ask timed.1 timed.2).2.peek = none := by
      rw [hnext]
      exact hpeek
    -- The objectives that are marked later take the place of those marked now.
    obtain ⟨objectives', hlast⟩ :=
      ih hpeek' fun r hr => hrequests r (List.mem_cons_of_mem _ hr)
    refine ⟨objectives', ?_⟩
    show (game.ask timed.1 timed.2).2.asked requests = _
    rw [hlast, hnext]

/-- However a game came about, and whatever is asked of it: without the questions and the refused
choices, the other requests have the same replies, and the game ends the same. A choice is refused
exactly if the story has no scene with the current id, or the scene has no choice with the id that
is asked for, and then the game is left as it was. So where there is no scene, requests that load
nothing can do no more than mark objectives. -/
theorem silent_requests_leave_no_trace (activity : Activity) (rules : Rules) (past : Past)
    (requests : List (Readings × Request)) :
    let game := past.game activity rules
    let heard := (game.transcript requests).filter (!·.isSilent)
    game.transcript (heard.map Exchange.asked) = heard ∧
    game.asked (heard.map Exchange.asked) = game.asked requests ∧
    (∀ clock choiceId refusal,
      (game.ask clock (.move (.choose choiceId))).1 = .answer (.refused refusal) ↔
        (activity.scene? game.state.currentSceneId = none ∧
          refusal = .noCurrentScene game.state.currentSceneId) ∨
        ∃ scene, activity.scene? game.state.currentSceneId = some scene ∧
          (∀ choice ∈ scene.choices, choice.id ≠ choiceId) ∧
          refusal = .unknownChoice scene.id choiceId) ∧
    (∀ clock choiceId refusal,
      (game.ask clock (.move (.choose choiceId))).1 = .answer (.refused refusal) →
        (game.ask clock (.move (.choose choiceId))).2 = game) ∧
    (activity.scene? game.state.currentSceneId = none →
      (∀ r ∈ requests, r.2.isLoad = false) →
      ∃ objectives, game.asked requests =
        { game with state := { game.state with completedObjectives := objectives } }) := by
  intro game heard
  have hgame : game.OnStory activity rules := past.onStory_game activity rules
  obtain ⟨hreplies, hend⟩ := transcript_filter game requests
  refine ⟨hreplies, hend, fun clock choiceId refusal => ?_,
    fun clock choiceId refusal hrefused => ask_choose_of_refused hrefused,
    fun hnone hrequests => ?_⟩
  · rw [ask_choose_eq_refused_iff, refused_iff hgame]
  · refine asked_of_peek_eq_none requests ?_ hrequests
    unfold peek
    rw [hgame.scene?_eq, hnone]

/-! ### Over the edge -/

/-- A story with a choice that leads nowhere. -/
def ledgeStory : Activity where
  id := "ledge"
  title := "Ledge"
  startingSceneId := "ledge"
  scenes :=
    [{ id := "ledge", title := "Ledge", description := ""
       choices :=
        [{ id := "wait", text := "Wait", nextSceneId := "ledge", points := some 1 },
         { id := "jump", text := "Jump", nextSceneId := "below" }] }]

/-- A player who waits on the ledge, with questions and a refused choice in between. -/
def ledgeRequests : List (Readings × Request) :=
  [(.epoch, .move .peek), (.epoch, .move (.choose "fly")), (.epoch, .move .look),
    (.epoch, .hasVisited "ledge"), (.epoch, .move (.choose "wait")), (.epoch, .move .save),
    (.epoch, .move (.complete "patience")), (.epoch, .log)]

/-- What is asked of the player who has jumped. -/
def lostRequests : List (Readings × Request) :=
  [(.epoch, .move (.choose "wait")), (.epoch, .move .choices),
    (.epoch, .move (.complete "courage")), (.epoch, .state)]

/-- On the ledge three of eight requests are heard. Past it choices are refused and the points stay
as they are. -/
theorem silent_requests_leave_no_trace_ledgeStory :
    let game := ({ builtAt := .epoch } : Past).game ledgeStory {}
    let lost :=
      ({ builtAt := .epoch, moves := [(.epoch, .choose "jump")] } : Past).game ledgeStory {}
    (((game.transcript ledgeRequests).filter (!·.isSilent)).map (·.request) =
      [.move .look, .move (.choose "wait"), .move (.complete "patience")]) ∧
    game.asked [(.epoch, .move .look), (.epoch, .move (.choose "wait")),
      (.epoch, .move (.complete "patience"))] = game.asked ledgeRequests ∧
    (lost.ask .epoch (.move (.choose "wait"))).1 = .answer (.refused (.noCurrentScene "below")) ∧
    (lost.ask .epoch (.move (.choose "wait"))).2 = lost ∧
    (lost.asked lostRequests).log = lost.log := by
  intro game lost
  obtain ⟨-, hsame, -⟩ :=
    silent_requests_leave_no_trace ledgeStory {} { builtAt := .epoch } ledgeRequests
  obtain ⟨-, -, hrefused, hsilent, hlost⟩ :=
    silent_requests_leave_no_trace ledgeStory {}
      { builtAt := .epoch, moves := [(.epoch, .choose "jump")] } lostRequests
  have hheard : ((game.transcript ledgeRequests).filter (!·.isSilent)).map Exchange.asked =
      [(.epoch, .move .look), (.epoch, .move (.choose "wait")),
        (.epoch, .move (.complete "patience"))] := by decide
  have hnone : ledgeStory.scene? lost.state.currentSceneId = none := by decide
  obtain ⟨objectives, hend⟩ := hlost hnone (by decide)
  have hwait : (lost.ask .epoch (.move (.choose "wait"))).1 =
      .answer (.refused (.noCurrentScene "below")) :=
    (hrefused .epoch "wait" _).2 (.inl ⟨hnone, rfl⟩)
  refine ⟨by decide, hheard ▸ hsame, hwait, hsilent .epoch "wait" _ hwait, ?_⟩
  rw [hend]

end Game

end Gamebook

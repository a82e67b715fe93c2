import Gamebook.Proofs.Authoring.Order
import Gamebook.Proofs.Play.Accounts

/-!
# The way out of generated stories

A player of a generated story always has a way on. Before the gateway every way on is open; at the
gateway the player may leave, or practise until the points suffice for the challenge; and the
challenge can be solved at any time. So an ending is always within reach, and the success ending is
as well if practice earns points.

## Key results

- `Leads`: choices that are on offer one after the other and lead to a goal
- `leads_take`: a choice that is open leads to whatever its next scene leads to
- `exists_leads_of_practice`: practising opens the gate, by induction on the points that are missing
- `exists_leads_of_gateway`: what can be reached from the gateway can be reached from before it
- `never_stranded`: outside the endings there are choices on offer that lead to an ending
-/

namespace Gamebook

namespace Game

/-! ## Choices that lead to a goal -/

/-- Whether the choices with some ids, taken one after the other at any times, are on offer when
they are taken and lead to a goal. -/
def Leads (game : Game) (ids : List String) (goal : Game → Prop) : Prop :=
  ∀ moves : List (Readings × Move), moves.map Prod.snd = ids.map Move.choose →
    game.Offered [] moves ∧ goal (game.played moves)

variable {game : Game} {goal : Game → Prop}

/-- No choices lead to where the player is already. -/
theorem leads_nil (h : goal game) : game.Leads [] goal := by
  intro moves hmoves
  obtain rfl := List.map_eq_nil_iff.1 hmoves
  exact ⟨trivial, h⟩

/-- Whatever the clock reads, a choice that is offered leads to where those after it lead. -/
theorem leads_cons {id : String} {ids : List String} (hoffer : game.Offers [] (.choose id))
    (h : ∀ clock, (game.step clock (.choose id)).2.Leads ids goal) :
    game.Leads (id :: ids) goal := by
  intro moves hmoves
  cases moves with
  | nil => cases hmoves
  | cons m moves =>
    obtain ⟨clock, move⟩ := m
    rw [List.map_cons, List.map_cons, List.cons.injEq] at hmoves
    obtain ⟨hmove, hrest⟩ := hmoves
    obtain rfl : move = .choose id := hmove
    obtain ⟨hoffered, hgoal⟩ := h clock moves hrest
    exact ⟨⟨hoffer, hoffered⟩, hgoal⟩

/-- Where choices lead on to a goal that is not reached yet, some choice is on offer. -/
theorem Leads.choices_ne_nil {ids : List String} (h : game.Leads ids goal) (hnot : ¬ goal game) :
    game.choices.1 ≠ [] := by
  cases ids with
  | nil =>
    -- No choices would have to lead to where the player is already.
    exact absurd (h [] rfl).2 hnot
  | cons id ids =>
    have hmoves : ((id :: ids).map fun i => (Readings.epoch, Move.choose i)).map Prod.snd =
        (id :: ids).map Move.choose := by
      rw [List.map_map]
      rfl
    obtain ⟨choice, hchoice, -⟩ := (h _ hmoves).1.1
    exact List.ne_nil_of_mem hchoice

end Game

namespace Course

variable {p : Course} {place : Nat} {scene : Scene}

/-! ## The ways that are always there -/

/-- From an ordinary place a choice leads to the next one, on no condition but the gate. -/
theorem At.exists_onward (h : p.At place scene) (hplace : place ≤ p.lessons) :
    ∃ choice ∈ scene.choices, choice.nextSceneId = p.stop (place + 1) ∧
      choice.conditions = if place = p.lessons then [p.gate] else [] := by
  -- The first way on will do: it asks for nothing but what the gateway adds.
  have hoffers : ∀ (first : Choice) (ways : List Choice), first.conditions = [] →
      first.nextSceneId = p.stop (place + 1) →
      ∃ choice ∈ p.offers place (first :: ways), choice.nextSceneId = p.stop (place + 1) ∧
        choice.conditions = if place = p.lessons then [p.gate] else [] := by
    intro first ways hopen hnext
    unfold offers Plan.gated
    -- At the gateway the first way on is closed by the gate, and elsewhere it stays as it is.
    split
    · refine ⟨{ first with conditions := first.conditions ++ [p.gate] }, by simp, hnext, ?_⟩
      rw [hopen]
      rfl
    · exact ⟨first, List.mem_cons_self, hnext, hopen⟩
  cases h with
  | opening => exact hoffers _ _ rfl rfl
  | lesson position objective => exact hoffers _ _ rfl rfl
  | challenge => omega
  | success => omega
  | alternative => omega

/-- At the gateway the player may practise or leave. -/
theorem At.gateway_choices (h : p.At place scene) (hplace : place = p.lessons) :
    (∃ id, p.practise id (p.stop place) ∈ scene.choices) ∧
      ∃ id, p.leave id (p.stop (p.lessons + 3)) ∈ scene.choices := by
  have hoffers : ∀ ways : List Choice,
      (∃ id, p.practise id (p.stop place) ∈ p.offers place ways) ∧
        ∃ id, p.leave id (p.stop (p.lessons + 3)) ∈ p.offers place ways := by
    -- Practice and the way out stand behind the other choices, whatever these are.
    intro ways
    unfold offers
    rw [if_pos hplace]
    exact ⟨⟨_, List.mem_append_right _ List.mem_cons_self⟩,
      _, List.mem_append_right _ (List.mem_cons_of_mem _ List.mem_cons_self)⟩
  cases h with
  | opening => exact hoffers _
  | lesson => exact hoffers _
  | challenge => omega
  | success => omega
  | alternative => omega

/-- The challenge can always be solved without help. -/
theorem At.exists_solve (h : p.At place scene) (hplace : place = p.lessons + 1) :
    ∃ id, p.solve id (p.stop (p.lessons + 2)) ∈ scene.choices := by
  cases h with
  | opening => omega
  | lesson => omega
  | challenge => exact ⟨_, List.mem_cons_self⟩
  | success => omega
  | alternative => omega

end Course

namespace Game

/-! ## Standing in the row -/

/-- Whether a game of a story stands at a place of a plan, with at most so many points missing for
the challenge. -/
structure Stands (p : Course) (story : Activity) (rules : Rules) (place missing : Nat)
    (game : Game) : Prop where
  onStory : game.OnStory story rules
  current : game.state.currentSceneId = p.stop place
  missing : p.recipe.challengeThreshold.toNat ≤ game.state.totalPoints.toNat + missing

variable {p : Course} {story : Activity} {rules : Rules} {place next missing left : Nat}
  {goal : Game → Prop}

/-- Whether a player stands at an ending is told by the place. -/
theorem Stands.atEnding_eq {game : Game} (hstory : p.Tells story)
    (h : Stands p story rules place missing game) (hplace : place < p.lessons + 4) :
    game.atEnding = decide (p.lessons + 2 ≤ place) := by
  obtain ⟨scene, hscene, hat⟩ := hstory place hplace
  unfold atEnding peek
  rw [h.current, h.onStory.scene?_eq, hscene, Option.any_some, hat.isEnding_eq]

/-- A choice that is open leads to whatever its next scene leads to. It may bring some of the
missing points. -/
theorem leads_take {scene : Scene} {choice : Choice} {ids : List String}
    (hscene : story.scene? (p.stop place) = some scene) (hat : p.At place scene)
    (hchoice : choice ∈ scene.choices) (hnext : choice.nextSceneId = p.stop next)
    (hopen : ∀ c ∈ choice.conditions, c = p.gate ∧ missing = 0)
    (hgain : missing ≤ left + Edge.gain ⟨scene, choice⟩)
    (h : ∀ game, Stands p story rules next left game → game.Leads ids goal)
    (game : Game) (hstands : Stands p story rules place missing game) :
    game.Leads (choice.id :: ids) goal := by
  have hpeek : game.peek = some scene := by
    unfold peek
    rw [hstands.current, hstands.onStory.scene?_eq]
    exact hscene
  have hmissing := hstands.missing
  -- The scene is entered before the conditions are looked at, which brings no points.
  have hconditions : Condition.allHold choice.conditions
      (game.state.visit scene.id).facts = true := by
    refine List.all_eq_true.2 fun c hc => ?_
    obtain ⟨rfl, hnone⟩ := hopen c hc
    refine (Condition.holds_scoreAtLeast _ _).2 ?_
    rw [hnone] at hmissing
    exact hmissing
  have hoffer : choice ∈ game.choices.1 := by
    rw [choices_of_peek hpeek]
    exact mem_offeredIn.2 ⟨hchoice, hconditions⟩
  -- The ids in a scene differ, so the choice on offer is the one that is found under its id.
  have hfind : game.find choice.id = .ok (scene, choice) :=
    find_eq_ok_iff.2 ⟨hpeek, hat.choice?_id hchoice⟩
  refine leads_cons ⟨choice, hoffer, rfl⟩ fun clock => h _ ⟨?_, ?_, ?_⟩
  · exact onStory_step clock _ hstands.onStory
  · rw [step_choose_ok hfind, currentSceneId_after, hnext]
  · -- Points that do not fit in a word are lost, but the challenge asks for no more than a word.
    have hpoints := toNat_totalPoints_after game ⟨scene, choice⟩ clock.first
    have hword := p.recipe.challengeThreshold.toNat_lt
    rw [step_choose_ok hfind]
    dsimp only at hpoints ⊢
    rw [hpoints]
    unfold maxUInt32
    omega

/-- An onward choice that is open leads to whatever the next place leads to. -/
theorem exists_leads_onward (hstory : p.Tells story) (hplace : place ≤ p.lessons)
    (hopen : place = p.lessons → missing = 0)
    (h : ∃ ids, ∀ game, Stands p story rules (place + 1) missing game → game.Leads ids goal) :
    ∃ ids, ∀ game, Stands p story rules place missing game → game.Leads ids goal := by
  obtain ⟨ids, h⟩ := h
  obtain ⟨scene, hscene, hat⟩ := hstory place (by omega)
  obtain ⟨choice, hchoice, hnext, hconditions⟩ := hat.exists_onward hplace
  -- Only at the gateway does the way on ask for anything, and there nothing is missing.
  refine ⟨choice.id :: ids, leads_take hscene hat hchoice hnext (fun c hc => ?_)
    (Nat.le_add_right _ _) h⟩
  rw [hconditions] at hc
  split at hc
  next hlast => exact ⟨List.mem_singleton.1 hc, hopen hlast⟩
  next => exact absurd hc List.not_mem_nil

/-- What can be reached from the gateway can be reached from every place before it. -/
theorem exists_leads_of_gateway (hstory : p.Tells story) (hplace : place ≤ p.lessons)
    (h : ∃ ids, ∀ game, Stands p story rules p.lessons missing game →
      game.Leads ids goal) :
    ∃ ids, ∀ game, Stands p story rules place missing game → game.Leads ids goal := by
  -- Backwards along the row, by induction on the distance from the gateway.
  obtain ⟨distance, hdistance⟩ : ∃ distance, place + distance = p.lessons :=
    ⟨p.lessons - place, by omega⟩
  induction distance generalizing place with
  | zero =>
    obtain rfl : place = p.lessons := hdistance
    exact h
  | succ distance ih =>
    -- Before the gateway every way on is open, whatever the points.
    exact exists_leads_onward hstory hplace (fun hlast => by omega) (ih (by omega) (by omega))

/-- Solving the challenge leads to the success ending. -/
theorem exists_leads_success_of_challenge (hstory : p.Tells story)
    (h : ∀ game, Stands p story rules (p.lessons + 2) missing game → goal game) :
    ∃ ids, ∀ game, Stands p story rules (p.lessons + 1) missing game →
      game.Leads ids goal := by
  obtain ⟨scene, hscene, hat⟩ := hstory (p.lessons + 1) (by omega)
  obtain ⟨id, hsolve⟩ := hat.exists_solve rfl
  exact ⟨[id], leads_take hscene hat hsolve rfl
    (fun c hc => absurd hc List.not_mem_nil) (Nat.le_add_right _ _)
    fun game hstands => leads_nil (h game hstands)⟩

/-- Leaving the gateway leads to the alternative ending. -/
theorem exists_leads_alternative_of_gateway (hstory : p.Tells story)
    (h : ∀ game, Stands p story rules (p.lessons + 3) missing game → goal game) :
    ∃ ids, ∀ game, Stands p story rules p.lessons missing game → game.Leads ids goal := by
  obtain ⟨scene, hscene, hat⟩ := hstory p.lessons (by omega)
  obtain ⟨-, id, hleave⟩ := hat.gateway_choices rfl
  exact ⟨[id], leads_take hscene hat hleave rfl
    (fun c hc => absurd hc List.not_mem_nil) (Nat.le_add_right _ _)
    fun game hstands => leads_nil (h game hstands)⟩

/-- If practice earns points, it opens the gate in the end. -/
theorem exists_leads_of_practice (hstory : p.Tells story) (hpractice : 0 < p.recipe.practicePoints)
    (h : ∃ ids, ∀ game, Stands p story rules (p.lessons + 1) 0 game → game.Leads ids goal)
    (missing : Nat) :
    ∃ ids, ∀ game, Stands p story rules p.lessons missing game → game.Leads ids goal := by
  -- Each round of practice brings a point at least, so the induction is on the points missing.
  induction missing with
  | zero => exact exists_leads_onward hstory (Nat.le_refl _) (fun _ => rfl) h
  | succ missing ih =>
    obtain ⟨ids, ih⟩ := ih
    obtain ⟨scene, hscene, hat⟩ := hstory p.lessons (by omega)
    -- Practising stays in the gateway, and brings at least one of the missing points.
    obtain ⟨⟨id, hpractise⟩, -⟩ := hat.gateway_choices rfl
    have hgain : 1 ≤ Edge.gain ⟨scene, p.practise id (p.stop p.lessons)⟩ :=
      Nat.le_trans (UInt32.lt_iff_toNat_lt.1 hpractice) (Nat.le_add_right _ _)
    exact ⟨id :: ids, leads_take hscene hat hpractise rfl
      (fun c hc => absurd hc List.not_mem_nil) (Nat.add_le_add_left hgain missing) ih⟩

/-- An ending is within reach of every place before the endings. -/
theorem exists_leads_ending (hstory : p.Tells story) (hplace : place ≤ p.lessons + 1) :
    ∃ ids, ∀ game, Stands p story rules place missing game →
      game.Leads ids fun last => last.atEnding = true := by
  -- Whatever is missing, the gateway can be left and the challenge can be solved.
  rcases Nat.lt_or_eq_of_le hplace with hearlier | rfl
  · refine exists_leads_of_gateway hstory (Nat.le_of_lt_succ hearlier)
      (exists_leads_alternative_of_gateway hstory fun last hlast => ?_)
    rw [hlast.atEnding_eq hstory (by omega)]
    exact decide_eq_true (Nat.le_succ _)
  · refine exists_leads_success_of_challenge hstory fun last hlast => ?_
    rw [hlast.atEnding_eq hstory (by omega)]
    exact decide_eq_true (Nat.le_refl _)

/-- If practice earns points, the success ending is within reach of every place before the
endings. -/
theorem exists_leads_success (hstory : p.Tells story) (hpractice : 0 < p.recipe.practicePoints)
    (hplace : place ≤ p.lessons + 1) :
    ∃ ids, ∀ game, Stands p story rules place missing game → game.Leads ids fun last =>
      last.state.currentSceneId = p.stop (p.lessons + 2) ∧ last.atEnding = true := by
  -- Once at the challenge, missing points no longer matter.
  have hchallenge : ∀ missing, ∃ ids, ∀ game,
      Stands p story rules (p.lessons + 1) missing game → game.Leads ids fun last =>
        last.state.currentSceneId = p.stop (p.lessons + 2) ∧ last.atEnding = true := by
    intro missing
    refine exists_leads_success_of_challenge hstory fun last hlast => ⟨?_, ?_⟩
    · exact hlast.current
    · rw [hlast.atEnding_eq hstory (by omega)]
      exact decide_eq_true (Nat.le_refl _)
  -- On the way to the challenge the gateway is where points are made up for.
  rcases Nat.lt_or_eq_of_le hplace with hearlier | rfl
  · exact exists_leads_of_gateway hstory (Nat.le_of_lt_succ hearlier)
      (exists_leads_of_practice hstory hpractice (hchallenge 0) missing)
  · exact hchallenge missing

/-- Outside the endings of a generated story some choice is on offer, whatever choices were taken
before, and choices on offer lead to an ending. If practice earns points, choices on offer lead to
the success ending as well. -/
theorem never_stranded {g next : Generator} {id title description : String} {brief : Brief}
    {story : Activity} (hstory : g.generate id title description brief = some (story, next))
    (rules : Rules) (now : Instant) (moves : List (Readings × Move))
    (hmoves : ∀ m ∈ moves, m.2.isLoad = false) :
    let l := (g.course title brief).layout
    let game := (start story rules {} now).played moves
    game.atEnding = false →
      game.choices.1 ≠ [] ∧
      (∃ ids, game.Leads ids fun last => last.atEnding = true) ∧
      (0 < g.recipe.practicePoints → ∃ ids, game.Leads ids fun last =>
        last.state.currentSceneId = l.success ∧ last.atEnding = true) := by
  intro l game hnot
  have htells := Generator.tells_of_generate hstory
  have hordered : (g.course title brief).Ordered game :=
    ordered_played htells (Generator.startingSceneId_of_generate hstory) rules now moves hmoves
  obtain ⟨place, hlt, hcurrent⟩ := hordered.placed
  -- At most all the points that the challenge asks for are missing.
  have hstands : Stands (g.course title brief) story rules place
      g.recipe.challengeThreshold.toNat game :=
    ⟨onStory_played moves (onStory_startOrResume _ rules {} none now), hcurrent,
      Nat.le_add_left _ _⟩
  have hplace : place ≤ (g.course title brief).lessons + 1 := by
    rw [hstands.atEnding_eq htells hlt, decide_eq_false_iff_not] at hnot
    exact Nat.le_of_lt_succ (Nat.lt_of_not_le hnot)
  -- The one way to an ending serves twice: it shows that something is offered as well.
  obtain ⟨ids, hending⟩ := exists_leads_ending htells hplace
  refine ⟨?_, ⟨ids, hending game hstands⟩, fun hpractice => ?_⟩
  · exact (hending game hstands).choices_ne_nil (by rw [hnot]; exact Bool.false_ne_true)
  · obtain ⟨ids', hsuccess⟩ := exists_leads_success htells hpractice hplace
    exact ⟨ids', hsuccess game hstands⟩

/-! ### A penniless player -/

/-- A generator whose stories give points for practice only. -/
def strictGenerator : Generator :=
  { recipe := { challengeThreshold := 3, openingPoints := 0, easyPoints := 0, mediumPoints := 0
                hardPoints := 0, practicePoints := 1 } }

/-- A brief without objectives, so that the opening is the gateway. -/
def plainBrief : Brief := { subject := .other "poetry" }

/-- The generator makes a story of the brief. -/
theorem isSome_generate_plainBrief :
    (strictGenerator.generate "verse" "Verse" "" plainBrief).isSome = true := by decide +kernel

/-- The story for the brief. -/
def plainStory : Activity :=
  ((strictGenerator.generate "verse" "Verse" "" plainBrief).get isSome_generate_plainBrief).1

/-- A play that practises once. -/
def strictMoves : List (Readings × Move) := [(.epoch, .look), (.epoch, .choose "choice_3")]

/-- With one point of three the ways on are closed, and still there is a way to both endings. -/
theorem never_stranded_strictMoves :
    let l := (strictGenerator.course "Verse" plainBrief).layout
    let game := (start plainStory {} {} .epoch).played strictMoves
    (∃ next, strictGenerator.generate "verse" "Verse" "" plainBrief = some (plainStory, next)) ∧
    (∀ m ∈ strictMoves, m.2.isLoad = false) ∧ game.atEnding = false ∧
    0 < strictGenerator.recipe.practicePoints ∧ game.state.totalPoints = 1 ∧
    game.choices.1.map (·.id) = ["choice_3", "choice_4"] ∧
    (∃ ids, game.Leads ids fun last => last.atEnding = true) ∧
    ∃ ids, game.Leads ids fun last =>
      last.state.currentSceneId = l.success ∧ last.atEnding = true := by
  intro l game
  have hmoves : ∀ m ∈ strictMoves, m.2.isLoad = false := by decide
  have hnot : game.atEnding = false := by decide +kernel
  have hpractice : 0 < strictGenerator.recipe.practicePoints := by decide
  have hstory := Generator.generate_eq_some_get isSome_generate_plainBrief
  obtain ⟨-, hending, hsuccess⟩ := never_stranded hstory {} .epoch strictMoves hmoves hnot
  exact ⟨⟨_, hstory⟩, hmoves, hnot, hpractice, by decide +kernel, by decide +kernel, hending,
    hsuccess hpractice⟩

end Game

end Gamebook

import Gamebook.Authoring.Commission
import Gamebook.Proofs.Authoring.Graph

/-!
# Numbers that are given once

A generator gives out the numbers of scenes and choices in order and without gaps: what it makes has
the scenes from the ones that it made before up to those that it has made since, and the choices
likewise. The scenes and choices of a story get theirs in the order in which they stand, also those
that only a gateway has. So the numbers of all that a generator makes are those of one interval, and
no id occurs twice.

## Key results

- `numbers`: the numbers that are given out between two counts
- `At.choiceIds`: the numbers of the choices at each place of a story
- `Numbered`: scenes that were numbered from one state of a generator up to another
- `numbered_make`: one thing that is made
- `numbered_makeAll`: all that a generator makes
- `exists_makeAll_eq`: everything is made if the generator can count so far
- `ids_unique`: no id occurs twice in that
-/

namespace Gamebook

/-- The numbers that are given out from one count up to another. -/
def numbers (before now : Nat) : List Nat := List.range' (before + 1) (now - before)

/-- A range is told by where it starts and how long it is. -/
theorem numbers_add (before n : Nat) :
    numbers before (before + n) = List.range' (before + 1) n := by
  unfold numbers
  rw [Nat.add_sub_cancel_left]

/-- Nothing is given out while nothing is counted. -/
theorem numbers_self (count : Nat) : numbers count count = [] := numbers_add count 0

/-- Numbers that are given out one batch after the other. -/
theorem numbers_append {before between now : Nat} (hbefore : before ≤ between)
    (hnow : between ≤ now) :
    numbers before between ++ numbers between now = numbers before now := by
  obtain ⟨m, rfl⟩ := Nat.exists_eq_add_of_le hbefore
  obtain ⟨n, rfl⟩ := Nat.exists_eq_add_of_le hnow
  have hstart : before + m + 1 = before + 1 + m := by omega
  rw [Nat.add_assoc before m n, numbers_add, numbers_add, ← Nat.add_assoc, numbers_add, hstart,
    List.range'_append_1]

/-- The ids that are given out differ from each other. -/
theorem nodup_map_numbers {id : Nat → String} (hid : Function.Injective id) (before now : Nat) :
    ((numbers before now).map id).Nodup :=
  List.Nodup.map hid List.nodup_range'

/-- What stands in a row and was given its numbers place by place, from one count to the next, has
all of them together. -/
theorem flatMap_eq_numbers {α : Type} (ids : α → List String) (id : Nat → String) (upTo : Nat → Nat)
    (hupTo : ∀ place, upTo place ≤ upTo (place + 1)) (row : List α)
    (hrow : ∀ place a, row[place]? = some a →
      ids a = (numbers (upTo place) (upTo (place + 1))).map id) :
    row.flatMap ids = (numbers (upTo 0) (upTo row.length)).map id := by
  -- For any counts, since those of the rest of the row start one place later.
  induction row generalizing upTo with
  | nil =>
    unfold numbers
    rw [List.length_nil, Nat.sub_self]
    rfl
  | cons a row ih =>
    -- The row after its first place is a row with its own counts.
    have hfirst : ids a = (numbers (upTo 0) (upTo 1)).map id := hrow 0 a rfl
    have hlater := ih (fun place => upTo (place + 1)) (fun place => hupTo (place + 1))
      (fun place b hb => hrow (place + 1) b hb)
    have hmono : upTo 1 ≤ upTo (row.length + 1) :=
      monotone_nat_of_le_succ hupTo (Nat.succ_le_succ (Nat.zero_le _))
    rw [List.flatMap_cons, hfirst, hlater, ← List.map_append, numbers_append (hupTo 0) hmono,
      List.length_cons]

/-! ## The numbers of a story -/

namespace Course

variable {p : Course} {place : Nat} {scene : Scene}

/-- How many choices are made at each place. -/
theorem At.choicesUpTo_succ (h : p.At place scene) :
    p.choicesUpTo (place + 1) = p.choicesUpTo place + scene.choices.length := by
  -- The gateway has two choices more than its ways on.
  have hoffers : ∀ ways : List Choice, (p.offers place ways).length =
      ways.length + if place = p.lessons then 2 else 0 := by
    intro ways
    unfold offers Plan.gated
    split <;> simp
  cases h with
  | opening =>
    rw [Course.choicesUpTo_succ p (Nat.zero_le _), if_pos rfl, Nat.add_assoc]
    exact congrArg (p.choicesUpTo 0 + ·) (hoffers p.openingWays).symm
  | lesson position objective hposition =>
    rw [Course.choicesUpTo_succ p hposition, if_neg (Nat.succ_ne_zero _), Nat.add_assoc]
    exact congrArg (p.choicesUpTo (position + 1) + ·)
      (hoffers (p.lessonWays position objective)).symm
  | challenge => exact p.choicesUpTo_challenge
  | success =>
    rw [p.choicesUpTo_end (Nat.le_succ _), p.choicesUpTo_end (Nat.le_refl _)]
    rfl
  | alternative =>
    rw [p.choicesUpTo_end (by omega), p.choicesUpTo_end (by omega)]
    rfl

/-- The choices at each place have the numbers from those before that place on. -/
theorem At.choiceIds (h : p.At place scene) :
    scene.choices.map (·.id) =
      (numbers (p.choicesUpTo place) (p.choicesUpTo (place + 1))).map choiceId := by
  rw [h.choicesUpTo_succ, numbers_add, List.range'_eq_map_range, List.map_map, h.counted]
  rfl

end Course

/-! ## The numbers of all that is made -/

/-- Whether scenes were numbered from one state of a generator up to another, and their choices
too. -/
structure Numbered (g next : Generator) (scenes : List Scene) : Prop where
  scenes_le : g.scenes.toNat ≤ next.scenes.toNat
  choices_le : g.choices.toNat ≤ next.choices.toNat
  sceneIds : scenes.map (·.id) = (numbers g.scenes.toNat next.scenes.toNat).map sceneId
  choiceIds : scenes.flatMap (·.choices.map (·.id)) =
    (numbers g.choices.toNat next.choices.toNat).map choiceId

/-- Making nothing takes no numbers. -/
theorem Numbered.nil (g : Generator) : Numbered g g [] :=
  ⟨Nat.le_refl _, Nat.le_refl _, by rw [numbers_self]; rfl, by rw [numbers_self]; rfl⟩

/-- What is made next is numbered on. -/
theorem Numbered.append {g next last : Generator} {scenes more : List Scene}
    (h : Numbered g next scenes) (hmore : Numbered next last more) :
    Numbered g last (scenes ++ more) := by
  refine ⟨h.scenes_le.trans hmore.scenes_le, h.choices_le.trans hmore.choices_le, ?_, ?_⟩
  · rw [List.map_append, h.sceneIds, hmore.sceneIds, ← List.map_append,
      numbers_append h.scenes_le hmore.scenes_le]
  · rw [List.flatMap_append, h.choiceIds, hmore.choiceIds, ← List.map_append,
      numbers_append h.choices_le hmore.choices_le]

namespace Generator

variable {g next : Generator}

/-- What is drawn from the counts of a generator is numbered, if its ids are those in between. -/
theorem numbered_of_draws {α : Type} {program : Made α} {a b : α} {after : Counts}
    (hdraws : Draws program g.counts a after) (h : program.run g = some (b, next))
    {scenes : List Scene}
    (hscenes : scenes.map (·.id) = (numbers g.scenes.toNat after.scenes).map sceneId)
    (hchoices : scenes.flatMap (·.choices.map (·.id)) =
      (numbers g.choices.toNat after.choices).map choiceId) : Numbered g next scenes := by
  -- What was made fits, so the generator now says how many ids it has given out.
  obtain ⟨hfits, -, rfl⟩ := (hdraws.run_eq_some_iff rfl).1 h
  have hcounts := g.counts_countedTo hfits
  have hsceneCount : (g.countedTo after).scenes.toNat = after.scenes :=
    congrArg Counts.scenes hcounts
  have hchoiceCount : (g.countedTo after).choices.toNat = after.choices :=
    congrArg Counts.choices hcounts
  exact ⟨hsceneCount ▸ hdraws.scenes_le, hchoiceCount ▸ hdraws.choices_le, hsceneCount ▸ hscenes,
    hchoiceCount ▸ hchoices⟩

/-- The scenes of a story and their choices are numbered in the order in which they stand. -/
theorem numbered_generateScenes {title : String} {brief : Brief} {scenes : List Scene}
    (h : g.generateScenes title brief = some (scenes, next)) : Numbered g next scenes := by
  obtain ⟨-, rfl, -⟩ := generateScenes_eq_some_iff.1 h
  refine numbered_of_draws (g.course title brief).draws_makeScenes h ?_ ?_
  · have hafter : (g.course title brief).after.scenes =
        g.scenes.toNat + ((g.course title brief).lessons + 4) := Nat.add_assoc _ _ _
    rw [hafter, numbers_add, List.range'_eq_map_range, List.map_map]
    exact Course.ids_scenes
  · -- What is given out at one place ends where the next place begins.
    have hrow := flatMap_eq_numbers (·.choices.map (·.id)) choiceId
      (g.course title brief).choicesUpTo (g.course title brief).choicesUpTo_le_succ
      (g.course title brief).scenes
      (fun place scene hscene => (Course.at_of_getElem? hscene).choiceIds)
    rw [Course.length_scenes, Course.choicesUpTo_zero,
      Course.choicesUpTo_end _ (Nat.le_add_right _ 2)] at hrow
    exact hrow

/-- The choices of a single scene, one after the other. -/
theorem draws_quickChoices (recipe : Recipe) (choices : List QuickChoice) (c : Counts) :
    ∃ made, Draws (recipe.quickChoices choices) c made ⟨c.scenes, c.choices + choices.length⟩ ∧
      made.map (·.id) = (numbers c.choices (c.choices + choices.length)).map choiceId := by
  induction choices generalizing c with
  | nil => exact ⟨[], draws_pure _ _, by rw [List.length_nil, Nat.add_zero, numbers_self]; rfl⟩
  | cons quick choices ih =>
    -- The choices that follow are counted from the first one on.
    obtain ⟨made, hdraws, hids⟩ := ih ⟨c.scenes, c.choices + 1⟩
    have hend : c.choices + 1 + choices.length = c.choices + (choices.length + 1) := by omega
    dsimp only at hdraws hids
    rw [hend] at hdraws hids
    refine ⟨_, (draws_nextChoiceId c).bind (hdraws.map rfl), ?_⟩
    rw [List.map_cons, hids, List.length_cons,
      ← numbers_append (Nat.le_succ c.choices) (Nat.add_le_add_left (Nat.le_add_left 1 _) _),
      numbers_add c.choices 1]
    rfl

/-- A single scene, and then its choices. -/
theorem draws_quickScene (recipe : Recipe) (title text : String) (choices : List QuickChoice)
    (c : Counts) :
    ∃ scene, Draws (recipe.quickScene title text choices) c scene
        ⟨c.scenes + 1, c.choices + choices.length⟩ ∧
      scene.id = sceneId (c.scenes + 1) ∧ scene.choices.map (·.id) =
        (numbers c.choices (c.choices + choices.length)).map choiceId := by
  obtain ⟨made, hdraws, hids⟩ := draws_quickChoices recipe choices ⟨c.scenes + 1, c.choices⟩
  exact ⟨_, (draws_nextSceneId c).bind (hdraws.map rfl), rfl, hids⟩

/-- A single scene takes one number, and one for each of its choices. -/
theorem numbered_quickScene {title text : String} {choices : List QuickChoice} {scene : Scene}
    (h : g.quickScene title text choices = some (scene, next)) : Numbered g next [scene] := by
  obtain ⟨made, hdraws, hid, hids⟩ := draws_quickScene g.recipe title text choices g.counts
  obtain ⟨-, rfl, -⟩ := (hdraws.run_eq_some_iff rfl).1 h
  refine numbered_of_draws hdraws h ?_ ?_
  · show [scene.id] = (numbers g.scenes.toNat (g.scenes.toNat + 1)).map sceneId
    rw [numbers_add, hid]
    rfl
  · rw [List.flatMap_singleton]
    exact hids

/-- Whatever is asked for, the generator counts on from what it made before. -/
theorem numbered_make {commission : Commission} {work : Work}
    (h : g.make commission = some (work, next)) : Numbered g next work.allScenes := by
  cases commission with
  | story id title description brief =>
    obtain ⟨⟨story, last⟩, hstory, hwork⟩ := Option.bind_eq_some_iff.1 h
    obtain ⟨rfl, rfl⟩ := Prod.mk.inj (Option.some.inj hwork)
    -- A story has the scenes that are made of its brief alone.
    obtain ⟨hfits, rfl, rfl⟩ := generate_eq_some_iff.1 hstory
    exact numbered_generateScenes (generateScenes_eq_some_iff.2 ⟨hfits, rfl, rfl⟩)
  | scenes title brief =>
    obtain ⟨⟨scenes, last⟩, hscenes, hwork⟩ := Option.bind_eq_some_iff.1 h
    obtain ⟨rfl, rfl⟩ := Prod.mk.inj (Option.some.inj hwork)
    exact numbered_generateScenes hscenes
  | quickScene title text choices =>
    obtain ⟨⟨scene, last⟩, hscene, hwork⟩ := Option.bind_eq_some_iff.1 h
    obtain ⟨rfl, rfl⟩ := Prod.mk.inj (Option.some.inj hwork)
    exact numbered_quickScene hscene

/-- All that a generator makes is numbered without gaps. -/
theorem numbered_makeAll {commissions : List Commission} {works : List Work}
    (h : g.makeAll commissions = some (works, next)) :
    Numbered g next (works.flatMap (·.allScenes)) := by
  induction commissions generalizing g works with
  | nil =>
    obtain ⟨rfl, rfl⟩ := Prod.mk.inj (Option.some.inj h)
    exact Numbered.nil g
  | cons commission commissions ih =>
    obtain ⟨⟨work, between⟩, hwork, hrest⟩ := Option.bind_eq_some_iff.1 h
    obtain ⟨⟨more, last⟩, hmore, hworks⟩ := Option.bind_eq_some_iff.1 hrest
    obtain ⟨rfl, rfl⟩ := Prod.mk.inj (Option.some.inj hworks)
    -- What comes later is numbered from where the first commission has left the counts.
    exact (numbered_make hwork).append (ih hmore)

/-! ## When nothing overflows -/

end Generator

/-- How many scenes and choices are made for a commission. -/
def Commission.needs : Commission → Counts
  | .story _ _ _ brief | .scenes _ brief =>
    ⟨brief.objectives.length + 4, 3 * brief.objectives.length + 7⟩
  | .quickScene _ _ choices => ⟨1, choices.length⟩

/-- How many are made for all commissions together. -/
def Commission.needsAll : List Commission → Counts
  | [] => ⟨0, 0⟩
  | commission :: commissions => commission.needs.plus (needsAll commissions)

namespace Generator

/-- A commission is carried out if the generator can count so far, and it counts on. -/
theorem exists_make_eq (g : Generator) (commission : Commission) :
    ∃ work, g.make commission =
      if (g.counts.plus commission.needs).Fits then
        some (work, g.countedTo (g.counts.plus commission.needs))
      else none := by
  cases commission with
  | story id title description brief =>
    -- What is made for the scenes decides, since the rest of the story draws no ids.
    have hscenes : g.generateScenes title brief = _ :=
      (g.course title brief).draws_makeScenes.run_eq g rfl
    refine ⟨.story ((g.plan title brief).activity id description (g.course title brief).scenes), ?_⟩
    show ((g.generateScenes title brief).bind _).bind _ =
      if (g.course title brief).after.Fits then _ else _
    rw [hscenes]
    split <;> rfl
  | scenes title brief =>
    have hscenes : g.generateScenes title brief = _ :=
      (g.course title brief).draws_makeScenes.run_eq g rfl
    refine ⟨.scenes (g.course title brief).scenes, ?_⟩
    show (g.generateScenes title brief).bind _ =
      if (g.course title brief).after.Fits then _ else _
    rw [hscenes]
    split <;> rfl
  | quickScene title text choices =>
    -- One id for the scene, and one for each choice.
    obtain ⟨made, hdraws, -⟩ := draws_quickScene g.recipe title text choices g.counts
    have hscene : g.quickScene title text choices = _ := hdraws.run_eq g rfl
    refine ⟨.quickScene made, ?_⟩
    show (g.quickScene title text choices).bind _ =
      if Counts.Fits ⟨g.counts.scenes + 1, g.counts.choices + choices.length⟩ then _ else _
    rw [hscene]
    split <;> rfl

/-- And so are all commissions, one after the other. -/
theorem exists_makeAll_eq (g : Generator) (commissions : List Commission) :
    ∃ works, g.makeAll commissions =
      if (g.counts.plus (Commission.needsAll commissions)).Fits then
        some (works, g.countedTo (g.counts.plus (Commission.needsAll commissions)))
      else none := by
  induction commissions generalizing g with
  | nil =>
    refine ⟨[], ?_⟩
    show some ([], g) = if g.counts.Fits then some ([], g.countedTo g.counts) else none
    rw [if_pos g.fits_counts, g.countedTo_counts]
  | cons commission commissions ih =>
    -- The later commissions are made with what the first has left of the counters.
    obtain ⟨work, hwork⟩ := g.exists_make_eq commission
    obtain ⟨works, hworks⟩ := ih (g.countedTo (g.counts.plus commission.needs))
    refine ⟨work :: works, ?_⟩
    unfold makeAll Commission.needsAll
    rw [hwork, ← Counts.plus_assoc]
    by_cases hfirst : (g.counts.plus commission.needs).Fits
    · rw [if_pos hfirst]
      show (Generator.makeAll _ commissions).bind _ = _
      rw [hworks, g.counts_countedTo hfirst]
      split <;> rfl
    -- What does not fit at the first commission does not fit at the end.
    · rw [if_neg hfirst, if_neg fun h => hfirst h.of_plus]
      rfl

/-- In all that a generator ever makes, no two scenes have the same id and no two choices do, not
even in different scenes of different stories. It makes all of it if it can count so far. -/
theorem ids_unique (g : Generator) (commissions : List Commission)
    (hfits : (g.counts.plus (Commission.needsAll commissions)).Fits) :
    ∃ works next, g.makeAll commissions = some (works, next) ∧
      let scenes := works.flatMap (·.allScenes)
      (scenes.map (·.id)).Nodup ∧ ((scenes.flatMap (·.choices)).map (·.id)).Nodup := by
  obtain ⟨works, hworks⟩ := g.exists_makeAll_eq commissions
  rw [if_pos hfits] at hworks
  have hnumbered := numbered_makeAll hworks
  refine ⟨works, _, hworks, ?_, ?_⟩
  · rw [hnumbered.sceneIds]
    exact nodup_map_numbers (fun _ _ => sceneId_inj.1) _ _
  · rw [List.map_flatMap, hnumbered.choiceIds]
    exact nodup_map_numbers (fun _ _ => choiceId_inj.1) _ _

/-- What a generator that has made things before is asked for: a story without lessons, a single
scene, and the scenes of a story. -/
def mixedCommissions : List Commission :=
  [.story "verse" "Verse" "" { subject := .other "poetry" },
    .quickScene "Pause" "" [{ text := "On", nextSceneId := "scene_9" },
      { text := "Back", nextSceneId := "scene_6" }],
    .scenes "Light" { subject := .physics, objectives := ["reflection", "refraction"] }]

/-- All three of them are made, and no id in them occurs twice. -/
theorem ids_unique_mixedCommissions :
    let g : Generator := { scenes := 5, choices := 10 }
    (g.counts.plus (Commission.needsAll mixedCommissions)).Fits ∧
    ∃ works next, g.makeAll mixedCommissions = some (works, next) ∧
      next.scenes = 16 ∧ next.choices = 32 ∧
      ((works.flatMap (·.allScenes)).map (·.id)).Nodup := by
  intro g
  have hfits : (g.counts.plus (Commission.needsAll mixedCommissions)).Fits := by decide
  obtain ⟨works, next, hworks, hscenes, -⟩ := ids_unique g mixedCommissions hfits
  have hcounts : (g.makeAll mixedCommissions).map (fun made => (made.2.scenes, made.2.choices)) =
      some (16, 32) := by decide +kernel
  rw [hworks] at hcounts
  obtain ⟨hsceneCount, hchoiceCount⟩ := Prod.mk.inj (Option.some.inj hcounts)
  exact ⟨hfits, works, next, hworks, hsceneCount, hchoiceCount, hscenes⟩

end Generator

end Gamebook

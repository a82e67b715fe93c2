import Gamebook.Authoring.Generator

/-!
# Counting on

What a generator makes depends on its counts only, and it leaves the counts higher by as many scenes
and choices as it drew ids for. `Draws` says that of a program: from some counts on it makes a
certain thing and comes to certain counts, if a generator can count that far, and fails if not. It
holds of a sequence of programs if it holds of each of them in turn, so the ids in all that is made
follow from the places at which they are drawn.

## Key results

- `Draws`: what a program makes from some counts on, and the counts that it comes to
- `draws_pure`, `Draws.bind`: programs that are put together
- `draws_nextSceneId`, `draws_nextChoiceId`: one id
- `Draws.run_eq_some_iff`: what a generator makes, and when
-/

namespace Gamebook

/-- How many scenes and choices were made. -/
structure Counts where
  scenes : Nat
  choices : Nat
  deriving DecidableEq

/-- Whether a generator can count that far. -/
def Counts.Fits (c : Counts) : Prop := c.scenes ≤ maxUInt32 ∧ c.choices ≤ maxUInt32

instance (c : Counts) : Decidable c.Fits := inferInstanceAs (Decidable (_ ∧ _))

/-- The counts after so much more. -/
def Counts.plus (c more : Counts) : Counts := ⟨c.scenes + more.scenes, c.choices + more.choices⟩

theorem Counts.plus_assoc (c d e : Counts) : (c.plus d).plus e = c.plus (d.plus e) := by
  unfold plus
  rw [Nat.add_assoc, Nat.add_assoc]

/-- What fits in the end fits in between. -/
theorem Counts.Fits.of_plus {c more : Counts} (h : (c.plus more).Fits) : c.Fits :=
  ⟨Nat.le_trans (Nat.le_add_right _ _) h.1, Nat.le_trans (Nat.le_add_right _ _) h.2⟩

namespace Generator

/-- The counts of a generator. -/
def counts (g : Generator) : Counts := ⟨g.scenes.toNat, g.choices.toNat⟩

/-- The generator with other counts. -/
def countedTo (g : Generator) (c : Counts) : Generator :=
  { g with scenes := .ofNat c.scenes, choices := .ofNat c.choices }

/-- The counters of a generator are words, so what it has counted always fits. -/
theorem fits_counts (g : Generator) : g.counts.Fits :=
  ⟨Nat.le_of_lt_succ g.scenes.toNat_lt, Nat.le_of_lt_succ g.choices.toNat_lt⟩

/-- A generator that has counted so far says so, if so far fits. -/
theorem counts_countedTo (g : Generator) {c : Counts} (hc : c.Fits) :
    (g.countedTo c).counts = c := by
  obtain ⟨hscenes, hchoices⟩ := hc
  have hscenes' := UInt32.toNat_ofNat_of_lt' (Nat.lt_succ_of_le hscenes)
  have hchoices' := UInt32.toNat_ofNat_of_lt' (Nat.lt_succ_of_le hchoices)
  unfold counts countedTo
  rw [hscenes', hchoices']

/-- Counting a generator to where it stands changes nothing. -/
theorem countedTo_counts (g : Generator) : g.countedTo g.counts = g := by
  unfold countedTo counts
  rw [UInt32.ofNat_toNat, UInt32.ofNat_toNat]

end Generator

/-- Whether a program makes something from some counts on and comes to other counts, if those fit.
If they do not, nothing is made. -/
structure Draws {α : Type} (program : Made α) (before : Counts) (a : α) (after : Counts) :
    Prop where
  scenes_le : before.scenes ≤ after.scenes
  choices_le : before.choices ≤ after.choices
  run_eq : ∀ g : Generator, g.counts = before →
    program.run g = if after.Fits then some (a, g.countedTo after) else none

section

variable {α β : Type} {program : Made α} {before between after : Counts} {a : α} {b : β}

/-- A program that makes nothing new draws no ids. -/
theorem draws_pure (a : α) (c : Counts) : Draws (pure a) c a c where
  scenes_le := Nat.le_refl _
  choices_le := Nat.le_refl _
  run_eq g hg := by
    rw [if_pos (hg ▸ g.fits_counts), ← hg, g.countedTo_counts]
    rfl

/-- A program that goes on from what another one made. -/
theorem Draws.bind {next : α → Made β} (h : Draws program before a between)
    (hnext : Draws (next a) between b after) : Draws (program >>= next) before b after where
  scenes_le := Nat.le_trans h.scenes_le hnext.scenes_le
  choices_le := Nat.le_trans h.choices_le hnext.choices_le
  run_eq g hg := by
    have hrun : (program >>= next).run g =
        (program.run g).bind fun made => (next made.1).run made.2 := rfl
    rw [hrun, h.run_eq g hg]
    by_cases hbetween : between.Fits
    · rw [if_pos hbetween, Option.bind_some, hnext.run_eq _ (g.counts_countedTo hbetween)]
      rfl
    · -- Counts that did not fit in between do not fit in the end.
      have hafter : ¬ after.Fits := fun hafter =>
        hbetween ⟨Nat.le_trans hnext.scenes_le hafter.1, Nat.le_trans hnext.choices_le hafter.2⟩
      rw [if_neg hbetween, if_neg hafter]
      rfl

/-- What is made of what a program made. -/
theorem Draws.map {f : α → Made β} (h : Draws program before a after) (hf : f a = pure b) :
    Draws (program >>= f) before b after :=
  h.bind (hf ▸ draws_pure b after)

/-- The next count is one more, if that fits. -/
private theorem map_countOn (n : UInt32) (f : UInt32 → β) :
    (countOn n).map f =
      if n.toNat + 1 ≤ maxUInt32 then some (f (.ofNat (n.toNat + 1))) else none := by
  unfold countOn
  split
  next hlt =>
    rw [if_pos (Nat.succ_le_of_lt hlt), UInt32.ofNat_add, UInt32.ofNat_toNat]
    rfl
  next hlt =>
    rw [if_neg fun h => hlt (Nat.lt_of_succ_le h)]
    rfl

/-- A program that counts one of the counters on makes what it makes of the next number. -/
private theorem draws_of_countOn (counter : Generator → UInt32)
    (made : Generator → UInt32 → α × Generator) (hscenes : before.scenes ≤ after.scenes)
    (hchoices : before.choices ≤ after.choices)
    (hrun : ∀ g, program.run g = (countOn (counter g)).map (made g))
    (hfits : ∀ g : Generator, g.counts = before →
      (after.Fits ↔ (counter g).toNat + 1 ≤ maxUInt32))
    (hmade : ∀ g : Generator, g.counts = before → (counter g).toNat + 1 ≤ maxUInt32 →
      made g (.ofNat ((counter g).toNat + 1)) = (a, g.countedTo after)) :
    Draws program before a after where
  scenes_le := hscenes
  choices_le := hchoices
  run_eq g hg := by
    rw [hrun, map_countOn]
    by_cases hfit : (counter g).toNat + 1 ≤ maxUInt32
    · rw [if_pos hfit, if_pos ((hfits g hg).2 hfit), hmade g hg hfit]
    · -- The counter is at its end, and so is the count.
      rw [if_neg hfit, if_neg fun h => hfit ((hfits g hg).1 h)]

/-- An id with the next scene number. -/
theorem draws_nextSceneId (c : Counts) :
    Draws nextSceneId c (sceneId (c.scenes + 1)) ⟨c.scenes + 1, c.choices⟩ := by
  refine draws_of_countOn (·.scenes)
    (fun g number => (sceneId number.toNat, { g with scenes := number })) (Nat.le_succ _)
    (Nat.le_refl _) (fun g => ?_) ?_ ?_
  · unfold nextSceneId
    simp only [StateT.run_bind, StateT.run_get, StateT.run_monadLift, StateT.run_set,
      StateT.run_pure, pure_bind]
    cases countOn g.scenes <;> rfl
  · -- The other counter is a word, so it fits anyway.
    rintro g rfl
    exact and_iff_left g.fits_counts.2
  · rintro g rfl hfit
    rw [UInt32.toNat_ofNat_of_lt' (Nat.lt_succ_of_le hfit)]
    unfold Generator.countedTo Generator.counts
    rw [UInt32.ofNat_toNat]

/-- An id with the next choice number. -/
theorem draws_nextChoiceId (c : Counts) :
    Draws nextChoiceId c (choiceId (c.choices + 1)) ⟨c.scenes, c.choices + 1⟩ := by
  refine draws_of_countOn (·.choices)
    (fun g number => (choiceId number.toNat, { g with choices := number })) (Nat.le_refl _)
    (Nat.le_succ _) (fun g => ?_) ?_ ?_
  · unfold nextChoiceId
    simp only [StateT.run_bind, StateT.run_get, StateT.run_monadLift, StateT.run_set,
      StateT.run_pure, pure_bind]
    cases countOn g.choices <;> rfl
  · rintro g rfl
    exact and_iff_right g.fits_counts.1
  · rintro g rfl hfit
    rw [UInt32.toNat_ofNat_of_lt' (Nat.lt_succ_of_le hfit)]
    unfold Generator.countedTo Generator.counts
    rw [UInt32.ofNat_toNat]

/-- Scene ids, one for each element of a list. -/
theorem draws_mapM_nextSceneId (row : List α) (c : Counts) :
    Draws (row.mapM fun _ => nextSceneId) c
      ((List.range row.length).map fun i => sceneId (c.scenes + 1 + i))
      ⟨c.scenes + row.length, c.choices⟩ := by
  induction row generalizing c with
  | nil => exact draws_pure _ _
  | cons first row ih =>
    rw [List.mapM_cons]
    have hlater := ih ⟨c.scenes + 1, c.choices⟩
    -- The ids that follow are counted from the first one on.
    have hend : c.scenes + 1 + row.length = c.scenes + (row.length + 1) := by omega
    simp only [hend] at hlater
    refine (draws_nextSceneId c).bind (hlater.map ?_)
    rw [List.length_cons, List.range_succ_eq_map, List.map_cons, List.map_map]
    have hnext : ∀ i, sceneId (c.scenes + 1 + 1 + i) = sceneId (c.scenes + 1 + (i + 1)) :=
      fun i => congrArg sceneId (by omega)
    simp only [hnext]
    rfl

/-! ## What generators make -/

/-- A generator makes what its counts lead to, and counts on. -/
theorem Draws.run_eq_some_iff (h : Draws program before a after) {g next : Generator}
    (hg : g.counts = before) {b : α} :
    program.run g = some (b, next) ↔ after.Fits ∧ b = a ∧ next = g.countedTo after := by
  rw [h.run_eq g hg]
  by_cases hfits : after.Fits
  · rw [if_pos hfits, Option.some.injEq, Prod.mk.injEq]
    exact ⟨fun ⟨ha, hnext⟩ => ⟨hfits, ha.symm, hnext.symm⟩,
      fun ⟨_, ha, hnext⟩ => ⟨ha.symm, hnext.symm⟩⟩
  · rw [if_neg hfits]
    exact ⟨nofun, fun h => absurd h.1 hfits⟩

end

end Gamebook

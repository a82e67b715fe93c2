import Gamebook.Proofs.Play.Looking
import Mathlib.Data.List.Nodup

/-!
# Typing ids

At a prompt a choice can be named by its number or by its id. A text that is a number is always read
as one, so an id names its own choice unless it is the number of another one. The game then takes
the first choice of the scene with the id, and hidden choices count there.

## Key results

- `IsNumberOf`: the numbers of the choices on offer
- `resolve?_eq_some_iff`: all that an input can mean
- `resolve?_id`: which ids mean their own choices
- `eq_or_isNumberOf`: what else an id can mean
- `scriptInputs_cons` / `consoleInputs_cons`: the input that a piece of a script or a line gives
- `converse_taking`: a dialogue goes on from the choice that its first input means
- `typed_id_is_taken`: so an id that is typed takes its choice, if it is no number of another one
- `typed_id_can_mislead`: ids that take other choices
-/

namespace Gamebook

variable {input : String} {offered : List Choice} {choice other : Choice}

/-! ## What an input means -/

/-- Whether a text is the number of a choice in a list, counted from one. -/
def IsNumberOf (input : String) (offered : List Choice) (choice : Choice) : Prop :=
  ∃ position, Decimal.count? input = some (position + 1) ∧ offered[position]? = some choice

/-- An input means the choice of which it is the number, or if it is no number at all the choices
with that id. -/
theorem resolve?_eq_some_iff {id : String} :
    resolve? input offered = some id ↔
      (∃ choice, IsNumberOf input offered choice ∧ choice.id = id) ∨
      (Decimal.count? input = none ∧ input = id ∧ ∃ choice ∈ offered, choice.id = id) := by
  unfold resolve? IsNumberOf
  -- Whether the input is a number decides how it is read.
  cases Decimal.count? input with
  | none =>
    have hfind : (offered.find? (·.id = input)).map (·.id) = some id ↔
        input = id ∧ ∃ choice ∈ offered, choice.id = id := by
      rw [Option.map_eq_some_iff]
      constructor
      · rintro ⟨found, hfound, rfl⟩
        have hid : found.id = input := by simpa using List.find?_some hfound
        exact ⟨hid.symm, found, List.mem_of_find?_eq_some hfound, rfl⟩
      · rintro ⟨rfl, choice, hchoice, hid⟩
        obtain ⟨found, hfound⟩ := Option.isSome_iff_exists.1
          (List.find?_isSome.2 ⟨choice, hchoice, by simpa using hid⟩ :
            (offered.find? (·.id = input)).isSome = true)
        exact ⟨found, hfound, by simpa using List.find?_some hfound⟩
    simpa using hfind
  | some count =>
    cases count with
    | zero => simp
    | succ position => simp [Option.map_eq_some_iff]

/-- An id means its own choice if it is no number, or the number of that choice. -/
theorem resolve?_id (hchoice : choice ∈ offered)
    (hown : Decimal.count? choice.id = none ∨ IsNumberOf choice.id offered choice) :
    resolve? choice.id offered = some choice.id :=
  resolve?_eq_some_iff.2 <| hown.elim
    (fun hplain => .inr ⟨hplain, rfl, choice, hchoice, rfl⟩)
    (fun hnumber => .inl ⟨choice, hnumber, rfl⟩)

/-- Where ids are distinct, an id can only mean its own choice or one of which it is the number. -/
theorem eq_or_isNumberOf (hdistinct : (offered.map (·.id)).Nodup) (hchoice : choice ∈ offered)
    (hother : other ∈ offered) (hmeans : resolve? choice.id offered = some other.id) :
    other = choice ∨ IsNumberOf choice.id offered other := by
  rcases resolve?_eq_some_iff.1 hmeans with ⟨found, hnumber, hid⟩ | ⟨-, hid, -⟩
  -- The choice that stands there has the id of the other one, so it is the other one.
  · obtain ⟨position, hcount, hfound⟩ := hnumber
    have hsame : found = other :=
      List.inj_on_of_nodup_map hdistinct (List.mem_of_getElem? hfound) hother hid
    exact .inr ⟨position, hcount, hsame ▸ hfound⟩
  · exact .inl (List.inj_on_of_nodup_map hdistinct hother hchoice hid.symm)

/-! ## What is typed -/

/-- A blank at the end of a text is trimmed away. -/
private theorem trim_concat {chars : List Char} {c : Char} (hblank : Text.isBlank c = true) :
    Text.trim (String.ofList (chars ++ [c])) = Text.trim (String.ofList chars) := by
  unfold Text.trim Text.trimStart
  rw [String.toList_ofList, String.toList_ofList, List.dropWhile_append]
  split
  next hall =>
    -- All before it is blank, too.
    rw [List.isEmpty_iff.1 hall]
    simp [hblank]
  next => simp [hblank]

/-- Up to its end a line is read as it is. -/
private theorem lines_go_append (line typed more : List Char) (htyped : '\n' ∉ typed) :
    Text.lines.go line (typed ++ '\n' :: more) =
      Text.lines.go (typed.reverse ++ line) ('\n' :: more) := by
  induction typed generalizing line with
  | nil => rfl
  | cons c typed ih =>
    rw [List.mem_cons, not_or] at htyped
    obtain ⟨hc, hrest⟩ := htyped
    -- Only a line feed ends a line, so any other character is added to it.
    have hstep : Text.lines.go line (c :: (typed ++ '\n' :: more)) =
        Text.lines.go (c :: line) (typed ++ '\n' :: more) := by
      rw [Text.lines.go]
      exact fun h => hc h.symm
    rw [List.cons_append, hstep, ih _ hrest]
    simp

/-- Up to the separator a piece is read as it is. -/
private theorem splitAt_go_of_not_mem {separator : Char} (piece typed : List Char)
    (htyped : separator ∉ typed) :
    Text.splitAt.go separator piece typed = [String.ofList (piece.reverse ++ typed)] := by
  induction typed generalizing piece with
  | nil => simp [Text.splitAt.go]
  | cons c typed ih =>
    rw [List.mem_cons, not_or] at htyped
    obtain ⟨hc, hrest⟩ := htyped
    -- No character is the separator, so the piece goes on to the end.
    rw [Text.splitAt.go, if_neg (fun h => hc h.symm), ih _ hrest]
    simp

/-- A line ends at a line feed. A carriage return before that is one of the blanks at its end. -/
private theorem lines_go_end (line more : List Char) :
    ∃ first, Text.lines.go line ('\n' :: more) = first :: Text.lines.go [] more ∧
      Text.trim first = Text.trim (String.ofList line.reverse) := by
  by_cases hreturn : ∃ before, line = '\r' :: before
  · obtain ⟨before, rfl⟩ := hreturn
    refine ⟨String.ofList before.reverse, by rw [Text.lines.go], ?_⟩
    rw [List.reverse_cons]
    exact (trim_concat (by decide)).symm
  · refine ⟨String.ofList line.reverse, ?_, rfl⟩
    rw [Text.lines.go]
    exact fun before hbefore => hreturn ⟨before, hbefore⟩

/-- A line at the console gives what is left of it without the blanks around it. -/
theorem consoleInputs_cons {typed : String} (htyped : '\n' ∉ typed.toList) (more : String) :
    consoleInputs (typed ++ "\n" ++ more) = Text.trim typed :: consoleInputs more := by
  have hlines : Text.lines (typed ++ "\n" ++ more) =
      Text.lines.go typed.toList.reverse ('\n' :: more.toList) := by
    have hread := lines_go_append [] typed.toList more.toList htyped
    rw [List.append_nil] at hread
    rw [← hread]
    unfold Text.lines
    rw [String.toList_append, String.toList_append, List.append_assoc]
    rfl
  -- The line may end with a carriage return, which is trimmed away.
  obtain ⟨first, hend, htrim⟩ := lines_go_end typed.toList.reverse more.toList
  rw [List.reverse_reverse, String.ofList_toList] at htrim
  unfold consoleInputs
  rw [hlines, hend, List.map_cons, htrim]
  rfl

/-- A piece of a script gives what is left of it without the blanks around it, if that is anything.
-/
theorem scriptInputs_cons {typed : String} (htyped : ',' ∉ typed.toList)
    (hne : Text.trim typed ≠ "") (more : String) :
    scriptInputs (typed ++ "," ++ more) = Text.trim typed :: scriptInputs more := by
  have hpieces : Text.splitAt ',' typed = [typed] := by
    unfold Text.splitAt
    rw [splitAt_go_of_not_mem [] typed.toList htyped]
    simp
  have hinputs : scriptInputs typed = [Text.trim typed] := by
    unfold scriptInputs
    rw [hpieces]
    simp [hne]
  rw [scriptInputs_append, hinputs]
  rfl

/-! ## What is taken -/

/-- The dialogue that goes on once an input has taken a choice of the scene. -/
def Source.taking (source : Source) (game : Game) (scene : Scene) (choice : Choice)
    (clock : Readings) (input : String) (inputs : List (Readings × String)) : Dialogue :=
  let next := game.after scene choice clock.first
  let outcome := Game.outcome choice next clock.second
  let shown := game.prompt.1.text ++ source.cue ++ (source.echo input ++ outcome.shown)
  match outcome.score with
  | some score => ⟨shown, next, .finished score⟩
  | none => (source.converse next inputs).after shown

namespace Game

variable {game : Game} {scene : Scene}

/-- In a scene that is entered, a choice that is found under its id is taken. -/
private theorem choose_entered_of_choice? (hpeek : game.peek = some scene)
    (hfound : scene.choice? choice.id = some choice) (clock : Readings) :
    game.entered.choose clock choice.id =
      (.ok (outcome choice (game.after scene choice clock.first) clock.second),
        game.after scene choice clock.first) :=
  choose_entered (choose_eq_ok_iff.2 ⟨scene, choice, hpeek, hfound, rfl, rfl⟩)

/-- A dialogue whose first input means a choice goes on from that choice, if it is the one that is
found under its id. -/
theorem converse_taking (source : Source) {clock : Readings} (hquit : input ≠ "quit")
    (hmeans : resolve? input game.choices.1 = some choice.id) (hpeek : game.peek = some scene)
    (hfound : scene.choice? choice.id = some choice) (inputs : List (Readings × String)) :
    source.converse game ((clock, input) :: inputs) =
      source.taking game scene choice clock input inputs := by
  have hchoose := choose_entered_of_choice? hpeek hfound clock
  have hentered : game.choices.2 = game.entered := by rw [choices_eq]
  rw [← hentered] at hchoose
  exact converse_of_choose source hquit hmeans hchoose inputs

/-- An input that can mean nothing but a choice takes that one or none, if it is the one that is
found under its id. -/
private theorem game_turn_of_only (source : Source) {clock : Readings} (hquit : input ≠ "quit")
    (honly : ∀ id, resolve? input offered = some id → id = choice.id)
    (hpeek : game.peek = some scene) (hfound : scene.choice? choice.id = some choice) :
    (source.turn offered game.entered clock input).game = game.after scene choice clock.first ∨
      (source.turn offered game.entered clock input).game = game.entered := by
  cases hmeans : resolve? input offered with
  | none =>
    refine .inr ?_
    unfold Source.turn
    simp only [if_neg hquit, hmeans]
    cases source <;> rfl
  | some id =>
    obtain rfl := honly id hmeans
    rw [turn_of_choose source hquit hmeans (choose_entered_of_choice? hpeek hfound clock)]
    exact .inl rfl

end Game

/-- Let the choices of a list have distinct ids, and let one of them have an id that is neither
empty nor the word for leaving. If the id is no number, or the number of that choice, it means that
choice. If it is the number of another choice, it means that one, since a number is always read as
one; and there is no other way for it to mean another choice.

In a game that offers these choices, and in which no choice before it in the scene has the same id,
hidden or not, the id as an input takes that choice, under the same condition. It takes no other
choice, unless it is the number of one. Whoever types the id, with any blanks around it, gives this
input: between two commas of a script, or in a line at the console. -/
theorem typed_id_is_taken (offered : List Choice) (hdistinct : (offered.map (·.id)).Nodup)
    (choice : Choice) (hchoice : choice ∈ offered) (hne : choice.id ≠ "")
    (hquit : choice.id ≠ "quit") :
    let ownName := Decimal.count? choice.id = none ∨ IsNumberOf choice.id offered choice
    (ownName → resolve? choice.id offered = some choice.id) ∧
    (∀ other, IsNumberOf choice.id offered other →
      resolve? choice.id offered = some other.id) ∧
    (∀ other ∈ offered, resolve? choice.id offered = some other.id →
      other = choice ∨ IsNumberOf choice.id offered other) ∧
    (∀ (source : Source) (game : Game) (scene : Scene) (clock : Readings)
        (inputs : List (Readings × String)),
      game.choices.1 = offered → game.peek = some scene →
      scene.choice? choice.id = some choice →
      (ownName → source.converse game ((clock, choice.id) :: inputs) =
        source.taking game scene choice clock choice.id inputs) ∧
      ((∀ other, IsNumberOf choice.id offered other → other = choice) →
        (source.turn offered game.entered clock choice.id).game =
          game.after scene choice clock.first ∨
        (source.turn offered game.entered clock choice.id).game = game.entered)) ∧
    ∀ typed more : String, Text.trim typed = choice.id →
      (',' ∉ typed.toList →
        scriptInputs (typed ++ "," ++ more) = choice.id :: scriptInputs more) ∧
      ('\n' ∉ typed.toList →
        consoleInputs (typed ++ "\n" ++ more) = choice.id :: consoleInputs more) := by
  intro ownName
  refine ⟨resolve?_id hchoice, fun other hnumber => ?_, fun other hother hmeans => ?_,
    fun source game scene clock inputs hoffered hpeek hfound => ⟨fun hown => ?_, fun honly => ?_⟩,
    fun typed more htrim => ⟨fun hcomma => ?_, fun hline => ?_⟩⟩
  · exact resolve?_eq_some_iff.2 (.inl ⟨other, hnumber, rfl⟩)
  · exact eq_or_isNumberOf hdistinct hchoice hother hmeans
  · subst hoffered
    exact Game.converse_taking source hquit (resolve?_id hchoice hown) hpeek hfound inputs
  -- The id can only be the number of its own choice, so there is nothing else that it could mean.
  · refine Game.game_turn_of_only source hquit (fun id hmeans => ?_) hpeek hfound
    rcases resolve?_eq_some_iff.1 hmeans with ⟨other, hnumber, rfl⟩ | ⟨-, hid, -⟩
    · rw [honly other hnumber]
    · exact hid.symm
  · rw [← htrim] at hne ⊢
    exact scriptInputs_cons hcomma hne more
  · rw [← htrim]
    exact consoleInputs_cons hline more

/-! ### Doors with numbers -/

/-- A story with numbers for ids, each of which is the number of the other choice. -/
def doorsStory : Activity where
  id := "doors"
  title := "Doors"
  startingSceneId := "hall"
  objectives := ["leave"]
  scenes :=
    [{ id := "hall", title := "Hall", description := ""
       choices :=
        [{ id := "2", text := "Second door", nextSceneId := "garden" },
         { id := "1", text := "First door", nextSceneId := "cellar" }] },
     { id := "garden", title := "Garden", description := "", isEnding := true },
     { id := "cellar", title := "Cellar", description := "", isEnding := true }]

/-- A story with a hidden choice before another one with the same id. -/
def secretStory : Activity where
  id := "secret"
  title := "Secret"
  startingSceneId := "hall"
  objectives := ["leave"]
  scenes :=
    [{ id := "hall", title := "Hall", description := ""
       choices :=
        [{ id := "go", text := "Through the wall", nextSceneId := "cellar"
           conditions := [.visited "cellar"] },
         { id := "go", text := "Through the door", nextSceneId := "garden" }] },
     { id := "garden", title := "Garden", description := "", isEnding := true },
     { id := "cellar", title := "Cellar", description := "", isEnding := true }]

/-- Ids on offer that are distinct, trimmed and not empty can take other choices than their own: a
number takes the choice that stands there, and an id takes a hidden choice that comes first. -/
theorem typed_id_can_mislead :
    let doors := Game.start doorsStory {} {} .epoch
    let secret := Game.start secretStory {} {} .epoch
    let second := doorsStory.scenes[0].choices[0]
    let first := doorsStory.scenes[0].choices[1]
    let door := secretStory.scenes[0].choices[1]
    let proper := fun c : Choice => c.id ≠ "" ∧ Text.trim c.id = c.id ∧ c.id ≠ "quit"
    doors.choices.1 = [second, first] ∧ second.id ≠ first.id ∧ proper second ∧ proper first ∧
    resolve? second.id [second, first] = some first.id ∧
    second.nextSceneId = "garden" ∧
    (Source.script.converse doors [(.epoch, second.id)]).game.state.currentSceneId = "cellar" ∧
    secret.choices.1 = [door] ∧ proper door ∧ door.nextSceneId = "garden" ∧
    (Source.script.converse secret [(.epoch, door.id)]).game.state.currentSceneId = "cellar" := by
  decide +kernel

/-- A story with ids that are numbers: one that stands where it says, and one that does not. A
hidden choice shares an id, but comes later. -/
def corridorStory : Activity where
  id := "corridor"
  title := "Corridor"
  startingSceneId := "corridor"
  objectives := ["leave"]
  scenes :=
    [{ id := "corridor", title := "Corridor", description := ""
       choices :=
        [{ id := "2nd", text := "Upstairs", nextSceneId := "attic" },
         { id := "+02", text := "Into the hall", nextSceneId := "hall" },
         { id := "1", text := "Outside", nextSceneId := "garden" },
         { id := "+02", text := "Through the wall", nextSceneId := "nowhere"
           conditions := [.hasItem "spell"] }] },
     { id := "attic", title := "Attic", description := "" },
     { id := "hall", title := "Hall", description := "" },
     { id := "garden", title := "Garden", description := "" }]

/-- The second choice of the corridor is taken by its id, which is its number, too. -/
theorem typed_id_is_taken_corridorStory :
    let game := Game.start corridorStory {} {} .epoch
    let corridor := corridorStory.scenes[0]
    let inside := corridor.choices[1]
    let offered := game.choices.1
    offered.map (·.id) = ["2nd", "+02", "1"] ∧ (offered.map (·.id)).Nodup ∧ inside ∈ offered ∧
    inside.id ≠ "" ∧ inside.id ≠ "quit" ∧ game.peek = some corridor ∧
    corridor.choice? inside.id = some inside ∧ IsNumberOf inside.id offered inside ∧
    resolve? inside.id offered = some inside.id ∧
    Source.console.converse game [(.epoch, inside.id)] =
      Source.console.taking game corridor inside .epoch inside.id [] ∧
    (Source.console.taking game corridor inside .epoch inside.id []).game.state.currentSceneId =
      "hall" ∧
    Text.trim " +02\r" = inside.id ∧
    consoleInputs (" +02\r" ++ "\n" ++ "quit") = inside.id :: consoleInputs "quit" ∧
    scriptInputs (" +02\r" ++ "," ++ "1") = inside.id :: scriptInputs "1" := by
  intro game corridor inside offered
  have hdistinct : (offered.map (·.id)).Nodup := by decide +kernel
  have hmem : inside ∈ offered := by decide +kernel
  have hpeek : game.peek = some corridor := by decide +kernel
  have hfound : corridor.choice? inside.id = some inside := by decide +kernel
  have hnumber : IsNumberOf inside.id offered inside :=
    ⟨1, by decide +kernel, by decide +kernel⟩
  have htrim : Text.trim " +02\r" = inside.id := by decide +kernel
  obtain ⟨hmeans, -, -, hplay, htyped⟩ :=
    typed_id_is_taken offered hdistinct inside hmem (by decide) (by decide)
  obtain ⟨htaken, -⟩ := hplay .console game corridor .epoch [] rfl hpeek hfound
  exact ⟨by decide +kernel, hdistinct, hmem, by decide, by decide, hpeek, hfound, hnumber,
    hmeans (.inr hnumber), htaken (.inr hnumber), by decide +kernel, htrim,
    (htyped _ "quit" htrim).2 (by decide), (htyped _ "1" htrim).1 (by decide)⟩

end Gamebook

import Gamebook.Text.Blank

/-!
# Subjects

School subjects, and the texts that give the stories of a subject their flavour. Flavour never
changes the shape of a story or its points.
-/

namespace Gamebook

/-- A school subject. -/
inductive Subject where
  | physics
  | chemistry
  | biology
  | mathematics
  /-- A subject without texts of its own. -/
  | other (name : String)
  deriving Repr, DecidableEq

namespace Subject

/-- The names of the subjects that have texts of their own. -/
def names : List (String × Subject) :=
  [("physics", physics), ("chemistry", chemistry), ("biology", biology),
    ("mathematics", mathematics), ("math", mathematics), ("maths", mathematics)]

/-- The subject that a text names, in letters of either case and between blanks. Only ASCII letters
have to be lowered: no other character becomes a letter of these names in lower case. -/
def ofText (s : String) : Subject :=
  let name := Text.trim s
  match names.lookup (String.ofList (name.toList.map Char.toLower)) with
  | some subject => subject
  | none => other name

/-- The name of a subject. -/
def name : Subject → String
  | physics => "physics"
  | chemistry => "chemistry"
  | biology => "biology"
  | mathematics => "mathematics"
  | other name => name

end Subject

/-! ## Flavour -/

/-- The texts that give a story its flavour. -/
structure Flavour where
  /-- The first location, where stories begin and end. -/
  home : String
  /-- The further locations. -/
  otherLocations : List String
  mentor : String
  /-- The key of the relationship with the mentor. -/
  mentorKey : String
  /-- The item that is handed out at the start. -/
  starterItem : String
  opening : String
  challenge : String
  success : String
  alternative : String
  /-- The kind of multimedia resource that suits the subject. -/
  mediaKind : String
  deriving Repr, DecidableEq

namespace Flavour

/-- All locations. -/
def locations (f : Flavour) : List String := f.home :: f.otherLocations

/-- The location of the n-th scene; the locations are gone through again and again. -/
def location (f : Flavour) (n : Nat) : String :=
  f.locations.getD (n % f.locations.length) f.home

/-- The flavour of stories on physics. -/
def physics : Flavour where
  home := "Physics Laboratory"
  otherLocations := ["Observatory Deck", "Particle Accelerator Hall", "Engineering Workshop"]
  mentor := "Dr. Ada Volta"
  mentorKey := "dr_volta"
  starterItem := "lab_notebook"
  opening := "The hum of equipment fills the laboratory. Dr. Ada Volta looks up from a " ++
    "tangle of wires and waves you over: an experiment has gone strangely wrong."
  challenge := "The main apparatus sparks and stalls. Only a careful application of " ++
    "everything you have learned will bring it back online."
  success := "The apparatus springs to life. Dr. Volta grins: you reasoned like a physicist."
  alternative := "The experiment stays a mystery for today, but your notebook is full of " ++
    "observations worth revisiting."
  mediaKind := "simulation"

/-- The flavour of stories on chemistry. -/
def chemistry : Flavour where
  home := "Chemistry Lab"
  otherLocations := ["Reagent Storeroom", "Fume Hood Station", "Crystal Cavern"]
  mentor := "Professor Lena Curie"
  mentorKey := "prof_curie"
  starterItem := "safety_goggles"
  opening := "Flasks bubble in rainbow colours. Professor Lena Curie hands you a pair of " ++
    "goggles: a mysterious compound needs identifying before the end of the day."
  challenge := "The unknown compound reacts violently with everything on the bench. Time to " ++
    "put your knowledge of reactions to the test."
  success := "The compound is identified and neutralised. Professor Curie adds your name to " ++
    "the lab's hall of fame."
  alternative := "The compound keeps its secret for now, but you leave with a safer lab and " ++
    "a sharper eye."
  mediaKind := "video"

/-- The flavour of stories on biology. -/
def biology : Flavour where
  home := "Rainforest Research Station"
  otherLocations := ["Microscopy Lab", "Tide Pool Shore", "Greenhouse"]
  mentor := "Dr. Maya Linnaeus"
  mentorKey := "dr_linnaeus"
  starterItem := "field_guide"
  opening := "Birdsong drifts through the research station. Dr. Maya Linnaeus spreads out a " ++
    "map: a species nobody can classify has been spotted nearby."
  challenge := "The creature is finally in sight, and classifying it will take everything " ++
    "you have observed so far."
  success := "Your classification is confirmed. Dr. Linnaeus names the field notes after you."
  alternative := "The creature slips back into the undergrowth, but your observations will " ++
    "guide the next expedition."
  mediaKind := "image"

/-- The flavour of stories on mathematics. -/
def mathematics : Flavour where
  home := "Hall of Patterns"
  otherLocations := ["Geometry Garden", "Number Tower", "Puzzle Vault"]
  mentor := "Professor Leon Euler"
  mentorKey := "prof_euler"
  starterItem := "compass_and_ruler"
  opening := "Chalk dust glitters in the Hall of Patterns. Professor Leon Euler taps a sealed " ++
    "door covered in symbols: it opens only for someone who can read them."
  challenge := "The vault door presents its final puzzle, a problem that ties every idea " ++
    "together."
  success := "The vault swings open. Professor Euler applauds a proof well made."
  alternative := "The vault stays closed today, but the patterns you found will not be " ++
    "forgotten."
  mediaKind := "interactive"

/-- The flavour of stories on any other subject. -/
def generic : Flavour where
  home := "Learning Center"
  otherLocations := ["Library of Ideas", "Discovery Room", "Study Hall"]
  mentor := "the Guide"
  mentorKey := "guide"
  starterItem := "journal"
  opening := "A quiet hall opens before you. The Guide smiles and hands you a journal: a " ++
    "journey of discovery is about to begin."
  challenge := "A final question stands between you and the end of the journey."
  success := "You answer with confidence. The Guide nods: the journey has changed you."
  alternative := "The journey ends on a different road, with plenty left to explore next time."
  mediaKind := "image"

/-- The flavour of the stories of a subject. -/
def ofSubject : Subject → Flavour
  | .physics => physics
  | .chemistry => chemistry
  | .biology => biology
  | .mathematics => mathematics
  | .other _ => generic

end Flavour

end Gamebook

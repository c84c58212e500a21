import FeedReader.Story.Basic

/-!
# Intelligence levels

The user trains the server on what to like and what to dislike, and every story carries
the resulting score. A *level* says how much of a stream is shown: everything, all but
the disliked stories, or the liked ones only. **A story is visible at a level when its
score is at least the level's number**, so a higher level shows less.
-/

namespace FeedReader

/-- How much of a stream is shown. -/
inductive Level
  /-- Every story, the disliked ones included. -/
  | all
  /-- Every story that is not disliked. -/
  | neutral
  /-- Liked stories only. -/
  | focus
deriving DecidableEq, Repr

/-- A number that stands for no level. -/
structure InvalidLevel where
  value : Int
deriving DecidableEq, Repr

namespace Level

/-- The least score that is still shown. -/
def toInt : Level → Int
  | all => -1
  | neutral => 0
  | focus => 1

def ofInt? : Int → Option Level
  | -1 => some all
  | 0 => some neutral
  | 1 => some focus
  | _ => none

/-- The level that the user asked for by its number. -/
def ofInt (n : Int) : Except InvalidLevel Level :=
  match ofInt? n with
  | some level => .ok level
  | none => .error ⟨n⟩

def name : Level → String
  | all => "all"
  | neutral => "neutral"
  | focus => "focus"

/-- The level of a stream for which none was chosen. -/
def standard : Level := neutral

/-- A level is below another when it shows more. -/
instance : LT Level := ⟨fun a b => a.toInt < b.toInt⟩

instance (a b : Level) : Decidable (a < b) := inferInstanceAs (Decidable (a.toInt < b.toInt))

/-- Whether stories of this score are shown. -/
def admits (level : Level) (score : Int) : Bool := decide (level.toInt ≤ score)

theorem ofInt?_toInt (level : Level) : ofInt? level.toInt = some level := by
  cases level <;> rfl

end Level

/-- What the user is told about a number that stands for no level. -/
def InvalidLevel.message (e : InvalidLevel) : String :=
  s!"Intelligence level must be -1, 0 or 1 (got {e.value})"

/-- Whether the story is shown at this level. -/
def Story.isVisibleAt (story : Story) (level : Level) : Bool := level.admits story.score

end FeedReader

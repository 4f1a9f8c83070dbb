import GitPrompt.Text

/-!
Places in a text: an offset counted from zero, a line and a column counted from one. Only
the line feed ends a line here.
-/
namespace GitPrompt

/-- A line and a column as messages name them. Those of a place in a text are positive. -/
structure Place where
  line : Int
  column : Int
  deriving DecidableEq, Repr

def Place.text (place : Place) : Text :=
  Text.signed place.line ++ ':' :: Text.signed place.column

structure Position where
  offset : Nat
  line : Nat
  column : Nat
  deriving DecidableEq, Repr

namespace Position

/-- Offsets outside the text are moved to its nearer end. -/
def clamp (source : Text) (offset : Int) : Nat := min offset.toNat source.length

def lastLine (text : Text) : Text := (text.reverse.takeWhile (· ≠ '\n')).reverse

def ofOffset (source : Text) (offset : Int) : Position :=
  let before := source.take (clamp source offset)
  ⟨before.length, before.count '\n' + 1, (lastLine before).length + 1⟩

def place (position : Position) : Place := ⟨position.line, position.column⟩

def text (position : Position) : Text := position.place.text

theorem text_eq (position : Position) :
    position.text = Text.decimal position.line ++ ':' :: Text.decimal position.column := rfl

theorem clamp_le (source : Text) (offset : Int) : clamp source offset ≤ source.length :=
  Nat.min_le_right _ _

theorem offset_ofOffset (source : Text) (offset : Int) :
    (ofOffset source offset).offset = clamp source offset := by
  simp [ofOffset, clamp_le]

theorem offset_ofOffset_natCast {source : Text} {offset : Nat} (inside : offset ≤ source.length) :
    (ofOffset source offset).offset = offset := by
  rw [offset_ofOffset, clamp, Int.toNat_natCast, Nat.min_eq_left inside]

end Position
end GitPrompt

import GitPrompt.Text

/-!
Style codes: what one code of a format asks for, how it is spelled there, and the numbers
it puts into an SGR escape.
-/
namespace GitPrompt.Style

inductive Hue
  | black | red | green | yellow | blue | magenta | cyan | white | grey
  deriving DecidableEq, Repr

inductive Ground
  | fore | back
  deriving DecidableEq, Repr

inductive Colour
  | named (hue : Hue)
  | indexed (number : Int)
  | rgb (red green blue : Int)
  deriving DecidableEq, Repr

inductive Code
  | reset
  | bold
  | italic
  | underline
  | named (ground : Ground) (hue : Hue)
  | indexed (number : Int)
  | rgb (ground : Ground) (red green blue : Int)
  deriving DecidableEq, Repr

inductive Category
  | reset | foreground | background | bold | italic | underline
  deriving DecidableEq, Repr

def Category.name : Category → String
  | .reset => "reset"
  | .foreground => "foreground"
  | .background => "background"
  | .bold => "bold"
  | .italic => "italic"
  | .underline => "underline"

theorem Category.name_injective {category other : Category} (same : category.name = other.name) :
    category = other := by
  cases category <;> cases other <;> first | rfl | exact absurd same (by decide)

def Ground.category : Ground → Category
  | .fore => .foreground
  | .back => .background

def Code.category : Code → Category
  | .reset => .reset
  | .bold => .bold
  | .italic => .italic
  | .underline => .underline
  | .named ground _ => ground.category
  | .indexed _ => .foreground
  | .rgb ground _ _ _ => ground.category

/-- Grey is the bright black that terminals show as dark grey. -/
def Hue.number : Ground → Hue → Int
  | .fore, .grey => 90
  | .back, .grey => 100
  | .fore, hue => 30 + offset hue
  | .back, hue => 40 + offset hue
where
  offset : Hue → Int
    | .black => 0
    | .red => 1
    | .green => 2
    | .yellow => 3
    | .blue => 4
    | .magenta => 5
    | .cyan => 6
    | .white => 7
    | .grey => 60

def Ground.extended : Ground → Int
  | .fore => 38
  | .back => 48

def Colour.numbers (ground : Ground) : Colour → List Int
  | .named hue => [hue.number ground]
  | .indexed number => [ground.extended, 5, number]
  | .rgb red green blue => [ground.extended, 2, red, green, blue]

def Code.colour? : Code → Option (Ground × Colour)
  | .named ground hue => some (ground, .named hue)
  | .indexed number => some (.fore, .indexed number)
  | .rgb ground red green blue => some (ground, .rgb red green blue)
  | _ => none

def Code.numbers (code : Code) : List Int :=
  match code.colour? with
  | some (ground, colour) => colour.numbers ground
  | none => []

def parameters (numbers : List Int) : Text := Text.joined [';'] (numbers.map Text.signed)

def Hue.letter : Ground → Hue → Char
  | .fore, .black => 'k'
  | .fore, .red => 'r'
  | .fore, .green => 'g'
  | .fore, .yellow => 'y'
  | .fore, .blue => 'b'
  | .fore, .magenta => 'm'
  | .fore, .cyan => 'c'
  | .fore, .white => 'w'
  | .fore, .grey => 'd'
  | .back, .black => 'K'
  | .back, .red => 'R'
  | .back, .green => 'G'
  | .back, .yellow => 'Y'
  | .back, .blue => 'B'
  | .back, .magenta => 'M'
  | .back, .cyan => 'C'
  | .back, .white => 'W'
  | .back, .grey => 'D'

def Code.lettered : List Code :=
  [.bold, .named .back .blue, .named .back .cyan, .named .back .grey, .named .back .green,
   .named .back .black, .named .back .magenta, .named .back .red, .named .back .white,
   .named .back .yellow, .underline, .named .fore .blue, .named .fore .cyan, .named .fore .grey,
   .named .fore .green, .italic, .named .fore .black, .named .fore .magenta, .named .fore .red,
   .named .fore .white, .named .fore .yellow, .reset]

def components (red green blue : Int) : Text :=
  Text.joined [','] [Text.signed red, Text.signed green, Text.signed blue]

def Code.source : Code → Text
  | .reset => ['~']
  | .bold => ['*']
  | .italic => ['i']
  | .underline => ['_']
  | .named ground hue => [hue.letter ground]
  | .indexed number => Text.signed number
  | .rgb .fore red green blue => '[' :: components red green blue ++ [']']
  | .rgb .back red green blue => '\x7b' :: components red green blue ++ ['\x7d']

def Code.ofLetter? (letter : Char) : Option Code :=
  lettered.find? (·.source == [letter])

theorem Code.source_of_ofLetter? {letter : Char} {code : Code}
    (found : ofLetter? letter = some code) : code.source = [letter] := by
  simpa using List.find?_some found

theorem Code.ofLetter?_source {code : Code} (member : code ∈ lettered) :
    ∃ letter, code.source = [letter] ∧ ofLetter? letter = some code := by
  simp only [lettered, List.mem_cons, List.not_mem_nil, or_false] at member
  rcases member with rfl | rfl | rfl | rfl | rfl | rfl | rfl | rfl | rfl | rfl | rfl | rfl | rfl |
    rfl | rfl | rfl | rfl | rfl | rfl | rfl | rfl | rfl <;> exact ⟨_, rfl, rfl⟩

end GitPrompt.Style

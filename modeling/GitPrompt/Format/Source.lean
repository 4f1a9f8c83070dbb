import GitPrompt.Format.Tree

/-!
Writing a tree back as a format.
-/
namespace GitPrompt.Format

def isSpecial (c : Char) : Bool := c == '\\' || c == '\''

def literalTail (quoteOpen : Bool) : Text → Text
  | [] => if quoteOpen then ['\''] else []
  | c :: rest =>
    if isSpecial c then (if quoteOpen then ['\''] else []) ++ '\\' :: c :: literalTail false rest
    else (if quoteOpen then [] else ['\'']) ++ c :: literalTail true rest

/-- Stretches without special characters are quoted, the special ones are escaped. -/
def literalSource (text : Text) : Text :=
  if text = [] then ['\'', '\''] else literalTail false text

def codesSource (codes : List Style.Code) : Text :=
  Text.joined [';'] (codes.map Style.Code.source)

mutual
def Element.source : Element → Text
  | .literal text => literalSource text
  | .field field arguments _ => '\\' :: field.letter :: arguments.source
  | .group kind body => kind.opener ++ body.source ++ [kind.closer.char]
  | .style codes body => '#' :: codesSource codes ++ '(' :: body.source ++ [')']
  | .nested sequence => sequence.source

def Sequence.source : Sequence → Text
  | .done trailing => trailing
  | .item separator element rest => separator ++ element.source ++ rest.source

/-- No list at all is written for no arguments, which is not the list of one empty argument. -/
def Arguments.source : Arguments → Text
  | .nil => []
  | .cons argument rest => '(' :: argument.source ++ rest.tailSource

def Arguments.tailSource : Arguments → Text
  | .nil => [')']
  | .cons argument rest => ',' :: argument.source ++ rest.tailSource
end

theorem literalSource_plain {text : Text} (plain : ∀ c ∈ text, isSpecial c = false) :
    literalSource text = '\'' :: text ++ ['\''] := by
  have tail : ∀ rest : Text, (∀ c ∈ rest, isSpecial c = false) →
      literalTail true rest = rest ++ ['\''] := by
    intro rest clean
    induction rest with
    | nil => rfl
    | cons c rest ih =>
      simp only [List.mem_cons, forall_eq_or_imp] at clean
      simp [literalTail, clean.1, ih clean.2]
  cases text with
  | nil => rfl
  | cons c rest =>
    simp only [List.mem_cons, forall_eq_or_imp] at plain
    simp [literalSource, literalTail, plain.1, tail rest plain.2]

end GitPrompt.Format

import GitPrompt.Format.Reading

/-!
The grammar of formats, character by character. A text derives a tree at an offset, which is
where the text begins in its format; the field of a tree is marked with the offset of its
backslash.
-/
namespace GitPrompt.Format

/-- Directly among the arguments of a field a comma is no separator. -/
inductive Scope
  | free
  | argument
  deriving DecidableEq, Repr

def Scope.Separates (alphabet : Text) : Scope → Char → Prop
  | .free, c => c ∈ alphabet
  | .argument, c => c ∈ alphabet ∧ c ≠ ','

instance (alphabet : Text) (scope : Scope) (c : Char) : Decidable (scope.Separates alphabet c) :=
  match scope with
  | .free => inferInstanceAs (Decidable (c ∈ alphabet))
  | .argument => inferInstanceAs (Decidable (c ∈ alphabet ∧ c ≠ ','))

theorem Scope.Separates.mem {alphabet : Text} {scope : Scope} {c : Char}
    (separates : scope.Separates alphabet c) : c ∈ alphabet := by
  cases scope with
  | free => exact separates
  | argument => exact separates.1

/-- A number of a colour: decimal digits of any length, leading zeros included. -/
structure Component (text : Text) (value : Nat) : Prop where
  nonempty : text ≠ []
  digits : ∀ c ∈ text, c.isDigit = true
  reads : Nat.ofDigitChars 10 text 0 = value
  small : value ≤ 255

inductive CodeDerives : Style.Code → Text → Prop
  | letter {letter : Char} {code : Style.Code} (named : Style.Code.ofLetter? letter = some code) :
      CodeDerives code [letter]
  | number {text : Text} {value : Nat} (component : Component text value) :
      CodeDerives (.indexed value) text
  | rgb (ground : Style.Ground) {red green blue : Text} {r g b : Nat} (first : Component red r)
      (second : Component green g) (third : Component blue b) :
      CodeDerives (.rgb ground r g b)
        (bracketOpen ground :: red ++ ',' :: green ++ ',' :: blue ++ [bracketClose ground])

/-- A run of digits is one code: two codes without a semicolon between them never join one
digit to another. -/
def Apart (first second : Text) : Prop :=
  ∀ c ∈ first.getLast?, ∀ d ∈ second.head?, ¬ (c.isDigit = true ∧ d.isDigit = true)

inductive CodesDerive : List Style.Code → Text → Prop
  | single {code : Style.Code} {text : Text} (first : CodeDerives code text) :
      CodesDerive [code] text
  | divided {code : Style.Code} {codes : List Style.Code} {text rest : Text}
      (first : CodeDerives code text) (others : CodesDerive codes rest) :
      CodesDerive (code :: codes) (text ++ ';' :: rest)
  | adjacent {code : Style.Code} {codes : List Style.Code} {text rest : Text}
      (first : CodeDerives code text) (others : CodesDerive codes rest)
      (apart : Apart text rest) :
      CodesDerive (code :: codes) (text ++ rest)

mutual
inductive Element.Derives (alphabet : Text) : Nat → Element → Text → Prop
  | literal {start : Nat} {text : Text} (plain : ∀ c ∈ text, c ≠ '\'' ∧ c ≠ '\\') :
      Element.Derives alphabet start (.literal text) ('\'' :: text ++ ['\''])
  | escaped {start : Nat} {c : Char} (special : c = '\'' ∨ c = '\\') :
      Element.Derives alphabet start (.literal [c]) ['\\', c]
  | field {start : Nat} (field : Field) :
      Element.Derives alphabet start (.field field .nil start) ['\\', field.letter]
  | call {start : Nat} (field : Field) {arguments : Arguments} {text : Text}
      (inner : Arguments.Derives alphabet (start + 3) arguments text) :
      Element.Derives alphabet start (.field field arguments start)
        ('\\' :: field.letter :: '(' :: text ++ [')'])
  | group {start : Nat} (kind : GroupKind) {body : Sequence} {text : Text}
      (inner : Sequence.Derives alphabet .free (start + kind.opener.length) body text) :
      Element.Derives alphabet start (.group kind body) (kind.opener ++ text ++ [kind.closer.char])
  | style {start : Nat} {codes : List Style.Code} {list : Text} {body : Sequence} {text : Text}
      (listed : CodesDerive codes list)
      (inner : Sequence.Derives alphabet .free (start + list.length + 2) body text) :
      Element.Derives alphabet start (.style codes body) ('#' :: list ++ '(' :: text ++ [')'])

inductive Sequence.Derives (alphabet : Text) : Scope → Nat → Sequence → Text → Prop
  | done {scope : Scope} {start : Nat} {trailing : Text}
      (run : ∀ c ∈ trailing, scope.Separates alphabet c) :
      Sequence.Derives alphabet scope start (.done trailing) trailing
  | item {scope : Scope} {start : Nat} {separator text more : Text} {element : Element}
      {rest : Sequence} (run : ∀ c ∈ separator, scope.Separates alphabet c)
      (first : Element.Derives alphabet (start + separator.length) element text)
      (others : Sequence.Derives alphabet scope (start + separator.length + text.length) rest
        more) :
      Sequence.Derives alphabet scope start (.item separator element rest)
        (separator ++ text ++ more)

inductive Arguments.Derives (alphabet : Text) : Nat → Arguments → Text → Prop
  | last {start : Nat} {argument : Sequence} {text : Text}
      (only : Sequence.Derives alphabet .argument start argument text) :
      Arguments.Derives alphabet start (.cons argument .nil) text
  | cons {start : Nat} {argument : Sequence} {rest : Arguments} {text more : Text}
      (first : Sequence.Derives alphabet .argument start argument text)
      (others : Arguments.Derives alphabet (start + text.length + 1) rest more) :
      Arguments.Derives alphabet start (.cons argument rest) (text ++ ',' :: more)
end

def Sequence.lead (run : Text) : Sequence → Sequence
  | .done trailing => .done (run ++ trailing)
  | .item separator element rest => .item (run ++ separator) element rest

/-- The run after the last element of the first sequence stands before the second. -/
def Sequence.append : Sequence → Sequence → Sequence
  | .done trailing, next => next.lead trailing
  | .item separator element rest, next => .item separator element (rest.append next)

theorem Sequence.lead_nil (sequence : Sequence) : sequence.lead [] = sequence := by
  cases sequence <;> rfl

theorem Sequence.done_append (run : Text) (next : Sequence) :
    (Sequence.done run).append next = next.lead run := rfl

theorem Sequence.item_append (separator : Text) (element : Element) (rest next : Sequence) :
    (Sequence.item separator element rest).append next =
      .item separator element (rest.append next) := rfl

theorem Sequence.lead_append (run : Text) (first second : Sequence) :
    (first.lead run).append second = (first.append second).lead run := by
  cases first with
  | done trailing => cases second <;> simp [lead, append]
  | item separator element rest => rfl

theorem Sequence.append_assoc (first second third : Sequence) :
    (first.append second).append third = first.append (second.append third) := by
  match first with
  | .done trailing => exact lead_append trailing second third
  | .item separator element rest =>
    simp only [append]
    rw [append_assoc rest second third]

section
variable {alphabet : Text} {scope : Scope}

theorem Sequence.Derives.lead {start : Nat} {run text : Text} {sequence : Sequence}
    (separates : ∀ c ∈ run, scope.Separates alphabet c)
    (derived : Sequence.Derives alphabet scope (start + run.length) sequence text) :
    Sequence.Derives alphabet scope start (sequence.lead run) (run ++ text) := by
  cases derived with
  | done trailing =>
    apply Sequence.Derives.done
    intro c member
    rcases List.mem_append.mp member with member | member
    · exact separates c member
    · exact trailing c member
  | @item _ _ separator first more element rest before derived others =>
    have lengths : start + (run ++ separator).length = start + run.length + separator.length := by
      simp [Nat.add_assoc]
    have whole : ∀ c ∈ run ++ separator, scope.Separates alphabet c := by
      intro c member
      rcases List.mem_append.mp member with member | member
      · exact separates c member
      · exact before c member
    rw [← lengths] at derived others
    simpa [Sequence.lead] using Sequence.Derives.item whole derived others

theorem Sequence.Derives.append {start : Nat} {first second : Sequence} {text more : Text}
    (derived : Sequence.Derives alphabet scope start first text)
    (others : Sequence.Derives alphabet scope (start + text.length) second more) :
    Sequence.Derives alphabet scope start (first.append second) (text ++ more) := by
  match derived with
  | .done trailing => exact others.lead trailing
  | @Sequence.Derives.item _ _ _ separator text next element rest before derived later =>
    have place : start + (separator ++ text ++ next).length =
        start + separator.length + text.length + next.length := by
      simp [Nat.add_assoc]
    rw [place] at others
    simpa [Sequence.append] using Sequence.Derives.item before derived (later.append others)

theorem Sequence.Derives.nothing {start : Nat} :
    Sequence.Derives alphabet scope start (.done []) [] := .done (by simp)

theorem Element.Derives.single {start : Nat} {element : Element} {text : Text}
    (derived : Element.Derives alphabet start element text) :
    Sequence.Derives alphabet scope start (.item [] element (.done [])) text := by
  have before : ∀ c ∈ ([] : Text), scope.Separates alphabet c := by
    simp
  have rest : Sequence.Derives alphabet scope (start + text.length) (.done []) [] := .nothing
  simpa using Sequence.Derives.item before derived rest

end

end GitPrompt.Format

import GitPrompt.Format.Tree
import GitPrompt.Style.Display

/-!
Rendering a tree for one snapshot. What renders nothing is dropped by whatever holds it,
together with its separator, its brackets and its escapes.
-/
namespace GitPrompt.Format

open Text (words)

structure Overflow where
  field : Field
  value : Int
  offset : Int
  deriving DecidableEq, Repr

def Overflow.message (overflow : Overflow) : Text :=
  words overflow.field.title ++ words " count " ++ Text.signed overflow.value ++
    words " is outside the range 0-" ++ Text.signed maxCount

structure Scene where
  snapshot : Snapshot
  display : Style.Display := {}
  deriving DecidableEq, Repr

/-- Join what the elements of a sequence show. The separator before the first of them is
left out. -/
def joinPieces : List (Text × Text) → Option Text
  | [] => none
  | (_, first) :: rest => some (first ++ rest.flatMap fun piece => piece.1 ++ piece.2)

theorem joinPieces_eq_none {pieces : List (Text × Text)} :
    joinPieces pieces = none ↔ pieces = [] := by
  cases pieces <;> simp [joinPieces]

def joinArguments : Option Text → Option Text → Option Text
  | none, second => second
  | first, none => first
  | some first, some second => some (first ++ second)

theorem joinArguments_eq_none {first second : Option Text} :
    joinArguments first second = none ↔ first = none ∧ second = none := by
  cases first <;> cases second <;> simp [joinArguments]

mutual
/-- Nothing is shown by an element without a result. -/
def Element.render (scene : Scene) (context : Style.Context) :
    Element → Except Overflow (Option Text)
  | .literal text => .ok (if text = [] then none else some text)
  | .field field arguments offset =>
    match field.value scene.snapshot with
    | .error value => .error ⟨field, value, offset⟩
    | .ok none => .ok none
    | .ok (some value) => do
      let mark ← arguments.render scene context
      return some (mark.getD field.mark ++ value)
  | .group kind body => do
    let pieces ← body.pieces scene context
    return (joinPieces pieces).map fun text => kind.left ++ text ++ kind.right
  | .style codes body => do
    let inner := context.apply codes
    let pieces ← body.pieces scene inner
    return (joinPieces pieces).map (scene.display.enclose inner context)
  | .nested sequence => do
    let pieces ← sequence.pieces scene context
    return joinPieces pieces

def Sequence.pieces (scene : Scene) (context : Style.Context) :
    Sequence → Except Overflow (List (Text × Text))
  | .done _ => .ok []
  | .item separator element rest => do
    let shown ← element.render scene context
    let later ← rest.pieces scene context
    return match shown with
      | none => later
      | some text => (separator, text) :: later

def Arguments.render (scene : Scene) (context : Style.Context) :
    Arguments → Except Overflow (Option Text)
  | .nil => .ok none
  | .cons argument rest => do
    let pieces ← argument.pieces scene context
    let later ← rest.render scene context
    return joinArguments (joinPieces pieces) later
end

def Sequence.render (scene : Scene) (context : Style.Context) (sequence : Sequence) :
    Except Overflow (Option Text) :=
  (sequence.pieces scene context).map joinPieces

theorem Element.render_nested (scene : Scene) (context : Style.Context) (sequence : Sequence) :
    (Element.nested sequence).render scene context = sequence.render scene context := by
  simp only [Element.render, Sequence.render]
  cases sequence.pieces scene context <;> rfl

end GitPrompt.Format

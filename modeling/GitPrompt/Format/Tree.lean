import GitPrompt.Field
import GitPrompt.Format.Frame
import GitPrompt.Style.Code

/-!
The tree of a format. A sequence pairs each element with the separator run written before
it; the run after its last element is kept so that the format can be written back, and is
never shown.
-/
namespace GitPrompt.Format

mutual
inductive Element
  | literal (text : Text)
  | field (field : Field) (arguments : Arguments) (offset : Int)
  | group (kind : GroupKind) (body : Sequence)
  | style (codes : List Style.Code) (body : Sequence)
  | nested (sequence : Sequence)
  deriving DecidableEq, Repr

inductive Sequence
  | done (trailing : Text)
  | item (separator : Text) (element : Element) (rest : Sequence)
  deriving DecidableEq, Repr

inductive Arguments
  | nil
  | cons (argument : Sequence) (rest : Arguments)
  deriving DecidableEq, Repr
end

namespace Sequence

def items : Sequence → List (Text × Element)
  | .done _ => []
  | .item separator element rest => (separator, element) :: rest.items

def trailing : Sequence → Text
  | .done trailing => trailing
  | .item _ _ rest => rest.trailing

def ofItems (items : List (Text × Element)) (trailing : Text) : Sequence :=
  items.foldr (fun item rest => .item item.1 item.2 rest) (.done trailing)

theorem items_ofItems (items : List (Text × Element)) (trailing : Text) :
    (ofItems items trailing).items = items := by
  induction items with
  | nil => rfl
  | cons item rest ih => simpa [ofItems, Sequence.items] using ih

theorem trailing_ofItems (items : List (Text × Element)) (trailing : Text) :
    (ofItems items trailing).trailing = trailing := by
  induction items with
  | nil => rfl
  | cons item rest ih => simpa [ofItems, Sequence.trailing] using ih

end Sequence

namespace Arguments

def ofList : List Sequence → Arguments
  | [] => .nil
  | argument :: rest => .cons argument (ofList rest)

def toList : Arguments → List Sequence
  | .nil => []
  | .cons argument rest => argument :: rest.toList

theorem toList_ofList (list : List Sequence) : (ofList list).toList = list := by
  induction list with
  | nil => rfl
  | cons argument rest ih => simp [ofList, toList, ih]

end Arguments

/-! Offsets say where a field was written. Two formats that differ in them alone are alike. -/

mutual
def Element.withoutOffsets : Element → Element
  | .literal text => .literal text
  | .field field arguments _ => .field field arguments.withoutOffsets 0
  | .group kind body => .group kind body.withoutOffsets
  | .style codes body => .style codes body.withoutOffsets
  | .nested sequence => .nested sequence.withoutOffsets

def Sequence.withoutOffsets : Sequence → Sequence
  | .done trailing => .done trailing
  | .item separator element rest => .item separator element.withoutOffsets rest.withoutOffsets

def Arguments.withoutOffsets : Arguments → Arguments
  | .nil => .nil
  | .cons argument rest => .cons argument.withoutOffsets rest.withoutOffsets
end

def Sequence.Alike (first second : Sequence) : Prop :=
  first.withoutOffsets = second.withoutOffsets

instance (first second : Sequence) : Decidable (first.Alike second) :=
  inferInstanceAs (Decidable (_ = _))

end GitPrompt.Format

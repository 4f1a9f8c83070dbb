import GitPrompt.Format.Fault
import GitPrompt.Format.Render
import GitPrompt.Text

/-!
Reports of failures. A failure in a format is shown below the line of the format it was
found in, with a caret under the column.
-/
namespace GitPrompt

open Text (words)

/-- A failure as it is reported. Only failures in a format have a place in it. -/
inductive Failure
  | format (kind : ErrorKind) (message : Text) (place : Place) (source : Option Text)
  | overflow (message : Text) (offset : Option Int) (source : Option Text)
  | other (kind : ErrorKind) (message : Text)
  deriving DecidableEq, Repr

namespace Failure

def kind : Failure → ErrorKind
  | .format kind _ _ _ => kind
  | .overflow _ _ _ => .overflow
  | .other kind _ => kind

def summary : Failure → Text
  | .format _ message place _ => message ++ words " (at " ++ place.text ++ [')']
  | .overflow message _ _ => message
  | .other _ message => message

def ofFormat (source : Text) (error : Format.FormatError) : Failure :=
  .format error.kind (error.message source) (error.position source).place (some source)

def ofOverflow (source : Text) (overflow : Format.Overflow) : Failure :=
  .overflow overflow.message (some overflow.offset) (some source)

end Failure

namespace Report

def alarmCodes : List Style.Code := [.named .fore .red, .bold]

def marginCodes : List Style.Code := [.bold]

def label (display : Style.Display) : Text := display.paint alarmCodes (words "error")

/-- A line of the source by its number, counted from one. Numbers below one count back from the
last line, and a number without a line stands for an empty one. -/
def sourceLine (source : Text) : Int → Text
  | .ofNat (before + 1) => ((Text.lines source)[before]?).getD []
  | .ofNat 0 => (Text.lines source).getLastD []
  | .negSucc skipped => ((Text.lines source).reverse[skipped + 1]?).getD []

/-- Counting back must end inside the source, of which even the empty one has a line. -/
def reaches (source : Text) (number : Int) : Bool :=
  1 - number ≤ max 1 (Text.lines source).length

def excerpt (display : Style.Display) (heading source : Text) (place : Place)
    (message : Text) : List Text :=
  let bar := ' ' :: display.paint marginCodes ['│']
  let caret := display.paint alarmCodes ['^']
  let indent := List.replicate (place.column - 1).toNat ' '
  [heading,
   bar,
   bar ++ words "    " ++ sourceLine source place.line,
   bar ++ words "    " ++ indent ++ caret ++ ' ' :: message]

def heading (display : Style.Display) (activity : String) (kind : ErrorKind)
    (place : Place) : Text :=
  label display ++ words ": unable to " ++ words activity ++ words " format (" ++
    words kind.name ++ words " at " ++ place.text ++ [')']

def lines (display : Style.Display) : Failure → List Text
  | .format kind message place (some source) =>
    excerpt display (heading display "parse" kind place) source place message
  | .overflow message (some offset) (some source) =>
    let place := (Position.ofOffset source offset).place
    excerpt display (heading display "render" .overflow place) source place message
  | failure => [label display ++ words ": " ++ failure.summary]

end Report

def Failure.reportable : Failure → Bool
  | .format _ _ place (some source) => Report.reaches source place.line
  | _ => true

def Failure.report (colour : Bool) (failure : Failure) : Text :=
  Text.joined ['\n'] (Report.lines { colour } failure)

end GitPrompt

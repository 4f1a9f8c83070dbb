/-!
Text as a list of characters. Offsets, columns and lengths count characters, so every
text rule below is a function on lists: the blank characters, the decimal digits of every script,
and the line boundaries (all of Unicode 14).
-/
namespace GitPrompt

abbrev Text := List Char

namespace Text

/-- The characters of a fixed wording. They stay folded, so that no proof spells out a wording
by accident. -/
@[irreducible] def words (wording : String) : Text := wording.toList

theorem words_eq (wording : String) : words wording = wording.toList := by
  unfold words
  rfl

def decimal (n : Nat) : Text := Nat.toDigits 10 n

def signed : Int → Text
  | .ofNat n => decimal n
  | .negSucc n => '-' :: decimal (n + 1)

def joined (separator : Text) (pieces : List Text) : Text := separator.intercalate pieces

def startsWith (start text : Text) : Bool := start.isPrefixOf text

abbrev Ranges := List (Nat × Nat)

/-- The ranges ascend, so none after one that starts beyond the code can hold it. -/
def Ranges.covers : Ranges → Nat → Bool
  | [], _ => false
  | (first, last) :: rest, code => first ≤ code && (code ≤ last || Ranges.covers rest code)

/-- The Unicode white space characters together with the four separator controls
U+001C to U+001F. The zero width space is not blank. -/
def isBlank (c : Char) : Bool :=
  let code := c.toNat
  (9 ≤ code && code ≤ 13) || (28 ≤ code && code ≤ 32) || code == 0x85 || code == 0xa0 ||
    code == 0x1680 || (0x2000 ≤ code && code ≤ 0x200a) || code == 0x2028 || code == 0x2029 ||
    code == 0x202f || code == 0x205f || code == 0x3000

def trimLeft (text : Text) : Text := text.dropWhile isBlank

def trim (text : Text) : Text := (trimLeft (trimLeft text).reverse).reverse

def asciiDigits : Text := ['0', '1', '2', '3', '4', '5', '6', '7', '8', '9']

def isAsciiDigit (c : Char) : Bool := asciiDigits.contains c

/-- The code of zero in each script; the digits one to nine follow it. -/
def zeros : List Nat :=
  [0x30, 0x660, 0x6f0, 0x7c0, 0x966, 0x9e6, 0xa66, 0xae6, 0xb66, 0xbe6, 0xc66, 0xce6, 0xd66,
   0xde6, 0xe50, 0xed0, 0xf20, 0x1040, 0x1090, 0x17e0, 0x1810, 0x1946, 0x19d0, 0x1a80, 0x1a90,
   0x1b50, 0x1bb0, 0x1c40, 0x1c50, 0xa620, 0xa8d0, 0xa900, 0xa9d0, 0xa9f0, 0xaa50, 0xabf0,
   0xff10, 0x104a0, 0x10d30, 0x11066, 0x110f0, 0x11136, 0x111d0, 0x112f0, 0x11450, 0x114d0,
   0x11650, 0x116c0, 0x11730, 0x118e0, 0x11950, 0x11c50, 0x11d50, 0x11da0, 0x16a60, 0x16ac0,
   0x16b50, 0x1d7ce, 0x1d7d8, 0x1d7e2, 0x1d7ec, 0x1d7f6, 0x1e140, 0x1e2f0, 0x1e950, 0x1fbf0]

def digitValue? (c : Char) : Option Nat :=
  (zeros.find? fun start => start ≤ c.toNat && c.toNat ≤ start + 9).map (c.toNat - ·)

def isDigit (c : Char) : Bool := (digitValue? c).isSome

def numeral (digits : Text) : Nat :=
  digits.foldl (fun number c => 10 * number + (digitValue? c).getD 0) 0

/-- The number again, where no more digits than the limit may write one. Zeros in front count. -/
def number? (limit : Option Nat) (digits : Text) : Option Nat :=
  if limit.any (· < digits.length) then none else some (numeral digits)

def usualLimit : Option Nat := some 4300

def isLineBreak (c : Char) : Bool :=
  let code := c.toNat
  (10 ≤ code && code ≤ 13) || (28 ≤ code && code ≤ 30) || code == 0x85 ||
    code == 0x2028 || code == 0x2029

def extendFirst (c : Char) : List Text → List Text
  | [] => [[c]]
  | line :: rest => (c :: line) :: rest

/-- A carriage return and the line feed after it are one break. No empty line follows the
last break. -/
def lines : Text → List Text
  | [] => []
  | '\r' :: '\n' :: rest => [] :: lines rest
  | c :: rest => if isLineBreak c then [] :: lines rest else extendFirst c (lines rest)

theorem extendFirst_mem_free {p : Char → Bool} {c : Char} {ls : List Text} (first : p c = false)
    (others : ∀ line ∈ ls, ∀ d ∈ line, p d = false) :
    ∀ line ∈ extendFirst c ls, ∀ d ∈ line, p d = false := by
  cases ls with
  | nil => simp [extendFirst, first]
  | cons line rest =>
    simp only [extendFirst, List.mem_cons, forall_eq_or_imp] at others ⊢
    exact ⟨⟨first, others.1⟩, others.2⟩

theorem lines_free (text : Text) : ∀ line ∈ lines text, ∀ c ∈ line, isLineBreak c = false := by
  fun_induction lines text with
  | case1 => simp
  | case2 rest ih => simpa using ih
  | case3 c rest _ broken ih => simpa using ih
  | case4 c rest _ whole ih => exact extendFirst_mem_free (by simpa using whole) ih

end Text
end GitPrompt

import ShaderLoom.Value.Broadcast
import ShaderLoom.Number.Places
import ShaderLoom.Text.Search

/-!
# The text of numeric arrays

The cells of an array are written in columns of one width. Floats have at most eight digits after
the point, are filled up so that their points align, and share one exponential form where their
magnitudes lie too far apart. Rows are broken into lines of at most seventy-five characters; a
nested row starts on a line of its own, below the opening bracket. Of an array with more than a
thousand cells only the three cells at either end of each long axis are written.
-/

namespace ShaderLoom

open Number Text

/-- Texts with a separator between each two. -/
def joinTexts (sep : String) (parts : List String) : String := String.intercalate sep parts

/-- The separator is written in front of each text, apart from the first one. -/
theorem toList_joinTexts (sep : String) (parts : List String) :
    (joinTexts sep parts).toList =
      (parts.flatMap fun t => sep.toList ++ t.toList).drop sep.toList.length := by
  induction parts with
  | nil => simp [joinTexts]
  | cons s rest ih =>
    cases rest with
    | nil => simp [joinTexts]
    | cons t rest =>
      have hjoin : joinTexts sep (s :: t :: rest) = s ++ sep ++ joinTexts sep (t :: rest) := by
        simp [joinTexts, String.intercalate_cons_of_ne_nil]
      rw [hjoin, String.toList_append, String.toList_append, ih]
      simp

theorem toList_joinTexts_empty (parts : List String) :
    (joinTexts "" parts).toList = parts.flatMap String.toList := by
  simp [toList_joinTexts]

namespace ArrayText

/-! ## Cells -/

/-- Fill a text up to a width with blanks in front. -/
def padLeft (width : Nat) (cs : List Char) : List Char :=
  List.replicate (width - cs.length) ' ' ++ cs

/-- Fill a text up to a width with a character behind. -/
def padRight (width : Nat) (c : Char) (cs : List Char) : List Char :=
  cs ++ List.replicate (width - cs.length) c

/-- The most digits after the point. -/
def maxFraction : Nat := 8

/-- A decimal for a rational number with no digit below a power of ten: the given shortest one if it
has none, and the nearest one otherwise. -/
def cutDecimal (q : Rat) (shortest : Decimal) (least : Int) : Decimal :=
  if least ≤ shortest.exponent then shortest
  else Decimal.trimZeros 400 ⟨Format.roundHalfEven (q / tenPow least), least⟩

/-- The parts of a float's text. -/
structure FloatParts where
  /-- The sign and the digits before the point. -/
  whole : List Char
  /-- The digits after the point. -/
  fraction : List Char
  /-- The sign and the digits of the exponent, if there is one. -/
  exponent : List Char := []

/-- The parts of a decimal that is written positionally. -/
def positionalParts (mark : List Char) (d : Decimal) : FloatParts :=
  let ds := digitChars d.digits
  let point : Int := ds.length + d.exponent
  if d.digits = 0 then ⟨mark ++ ['0'], [], []⟩
  else if point ≤ 0 then
    ⟨mark ++ ['0'], List.replicate (-point).toNat '0' ++ ds, []⟩
  else
    ⟨mark ++ ds.take point.toNat ++ List.replicate (point.toNat - ds.length) '0',
      ds.drop point.toNat, []⟩

/-- The parts of a decimal that is written with an exponent. -/
def exponentialParts (mark : List Char) (d : Decimal) : FloatParts :=
  if d.digits = 0 then ⟨mark ++ ['0'], [], exponentChars 0⟩
  else
    let ds := digitChars d.digits
    ⟨mark ++ ds.take 1, ds.drop 1, exponentChars (ds.length + d.exponent - 1)⟩

/-- A cell that holds a float: its format and its pattern with sign. -/
structure FloatCell where
  format : Format
  pattern : Nat
deriving DecidableEq

namespace FloatCell

/-- The pattern without sign. -/
def magnitude (c : FloatCell) : Nat := c.pattern % c.format.signBit

/-- Whether the sign bit is set. -/
def isNegative (c : FloatCell) : Bool := c.format.signBit ≤ c.pattern

/-- Whether the float is a number and not infinite. -/
def isFinite (c : FloatCell) : Bool := c.magnitude < c.format.infinity

/-- The sign that is written. -/
def mark (c : FloatCell) : List Char := if c.isNegative then ['-'] else []

/-- The text of a float that is not finite. -/
def specialText (c : FloatCell) : List Char :=
  if c.magnitude = c.format.infinity then c.mark ++ ['i', 'n', 'f'] else ['n', 'a', 'n']

/-- The parts of a finite float with at most `digits` digits after the point. -/
def parts (c : FloatCell) (isExponential : Bool) (digits : Nat) : FloatParts :=
  let q := c.format.value c.magnitude
  if c.magnitude = 0 then
    if isExponential then exponentialParts c.mark ⟨0, 0⟩ else positionalParts c.mark ⟨0, 0⟩
  else
    let shortest := c.format.shortest c.magnitude
    if isExponential then
      exponentialParts c.mark (cutDecimal q shortest (decimalScale q - 1 - digits))
    else positionalParts c.mark (cutDecimal q shortest (-digits))

/-- The parts of a finite float with an exponent and exactly `digits` digits after the point; digits
beyond the shortest ones are those of the exact value. -/
def filledParts (c : FloatCell) (digits : Nat) : FloatParts :=
  if c.magnitude = 0 then
    { exponentialParts c.mark ⟨0, 0⟩ with fraction := List.replicate digits '0' }
  else exponentialParts c.mark (scientificDecimal (c.format.value c.magnitude) digits)

end FloatCell

/-- The magnitude from which on an array is written with exponents. -/
def exponentialFrom (f : Format) : Nat := Nat.pow 10 (if f = .double then 8 else 6)

/-- Whether finite floats other than zero, given by their magnitudes, are written with exponents:
one is too large or too small, or the largest is more than a thousand times the smallest. -/
def needsExponents (f : Format) (magnitudes : List Nat) : Bool :=
  match magnitudes with
  | [] => false
  | m :: ms =>
    let largest := f.value (ms.foldl max m)
    let smallest := ms.foldl min m
    (exponentialFrom f : Rat) ≤ largest || smallest < f.nearest (mkRat 1 10000) ||
      1000 < f.value (f.nearest (largest / f.value smallest))

/-- The greatest length of some texts. -/
def widest (texts : List (List Char)) : Nat := (texts.map List.length).foldl max 0

/-- The texts of cells that hold floats. -/
def floatTexts (f : Format) (cells : List FloatCell) : List (List Char) :=
  let finite := cells.filter FloatCell.isFinite
  let isExponential :=
    needsExponents f ((finite.map FloatCell.magnitude).filter (· ≠ 0))
  let first := finite.map fun c => c.parts isExponential maxFraction
  let fractionWidth := widest (first.map (·.fraction))
  let exponentWidth := widest (first.map (·.exponent)) - 1
  let right :=
    if finite.isEmpty then 0
    else if isExponential then exponentWidth + 2 + fractionWidth
    else fractionWidth
  let special := (cells.filter fun c => !c.isFinite).map FloatCell.specialText
  let left := max (widest (first.map (·.whole))) (widest special - (right + 1))
  cells.map fun c =>
    if !c.isFinite then padLeft (left + right + 1) c.specialText
    else if isExponential then
      let p := c.filledParts fractionWidth
      let (sign, power) := p.exponent.splitAt 1
      padLeft left p.whole ++ '.' :: p.fraction ++ 'e' :: sign ++
        List.replicate (exponentWidth - power.length) '0' ++ power
    else
      let p := c.parts false maxFraction
      padLeft left p.whole ++ '.' :: padRight right ' ' p.fraction

/-- The cell of an array that holds a float. -/
def FloatCell.ofScalar? : Scalar → Option FloatCell
  | .single x => some ⟨.single, x.toBits.toNat⟩
  | .double x => some ⟨.double, x.toBits.toNat⟩
  | _ => none

/-- The characters of a truth value. -/
def truthChars (b : Bool) : List Char := if b then "True".toList else "False".toList

/-- The text of a cell that holds no float. -/
def plainText : Scalar → List Char
  | .integer _ n => (intText n).toList
  | .truth b => truthChars b
  | _ => []

/-- The texts of the cells of an array, of one width if the array has an axis. -/
def cellTexts (a : NumericArray) : List (List Char) :=
  let texts := a.cells.map plainText
  match a.cellType with
  | .single => floatTexts .single (a.cells.filterMap FloatCell.ofScalar?)
  | .double => floatTexts .double (a.cells.filterMap FloatCell.ofScalar?)
  | .integer _ => texts.map (padLeft (widest texts))
  | .truth => if a.shape.isEmpty then texts else texts.map (padLeft 5)

/-! ## Lines -/

/-- The width of a line. -/
def lineWidth : Nat := 75

/-- Lines in the making. -/
structure Lines where
  /-- The finished lines, each with its line break. -/
  finished : List Char
  /-- The line that words are added to. -/
  current : List Char

/-- Blanks. -/
def blanks (n : Nat) : List Char := List.replicate n ' '

/-- Add a word to the current line, or to a new one if it does not fit and the line has a word. -/
def Lines.add (indent width : Nat) (ls : Lines) (word : List Char) : Lines :=
  if width < ls.current.length + word.length ∧ indent < ls.current.length then
    ⟨ls.finished ++ trimRight ls.current ++ ['\n'], blanks indent ++ word⟩
  else { ls with current := ls.current ++ word }

/-- Add words with a separator between each two. -/
def Lines.addAll (sep : List Char) (indent width : Nat) (ls : Lines) : List (List Char) → Lines
  | [] => ls
  | [word] => ls.add indent width word
  | word :: words =>
    let ls := ls.add indent width word
    { ls with current := ls.current ++ sep }.addAll sep indent width words

/-! ## Long arrays -/

/-- The most cells that are all written. -/
def maxCells : Nat := 1000

/-- The number of members that are written at either end of an axis that is cut short. -/
def edgeLength : Nat := 3

/-- Whether an axis is cut short in a long array. -/
def isCut (n : Nat) : Bool := 2 * edgeLength < n

/-- The length of an axis after it was cut short. -/
def keptLength (n : Nat) : Nat := if isCut n then 2 * edgeLength else n

/-- The cells that are written of a long array. -/
def keptCells {α : Type} : List Nat → List α → List α
  | [], cells => cells
  | n :: shape, cells =>
    let rows := pieces (cellCount shape) n cells
    let kept := if isCut n then rows.take edgeLength ++ rows.drop (n - edgeLength) else rows
    (kept.map (keptCells shape)).flatten

/-- What stands for the cells that are left out. -/
def gapMark : List Char := ['.', '.', '.']

/-- The items of an axis, with a mark in the middle if the axis was cut short. -/
def withGap {α : Type} (cut : Bool) (mark : α) (items : List α) : List α :=
  if cut then items.take edgeLength ++ mark :: items.drop edgeLength else items

/-! ## Rows -/

/-- A row of words between brackets, the first line being indented already. -/
def rowText (sep : List Char) (indent width : Nat) (words : List (List Char)) : List Char :=
  let ls := Lines.addAll sep indent width ⟨[], blanks indent⟩ words
  '[' :: (ls.finished ++ ls.current).drop indent ++ [']']

/-- Nested rows of words between brackets; blank lines stand between rows of more than one axis. In
a long array the words are those of the cells that are kept. -/
def nestedText (sep : List Char) (isLong : Bool) :
    Nat → Nat → List Nat → List (List Char) → List Char
  | _, _, [], words => words.headD []
  | indent, width, [n], words =>
    rowText sep indent (width - 1) (withGap (isLong && isCut n) gapMark words)
  | indent, width, n :: shape, words =>
    let inner := if isLong then shape.map keptLength else shape
    let count := if isLong then keptLength n else n
    let rows := (pieces (cellCount inner) count words).map
      (nestedText sep isLong (indent + 1) (width - 1) shape)
    let between := trimRight sep ++ List.replicate shape.length '\n' ++ blanks indent
    '[' :: joinWith between (withGap (isLong && isCut n) gapMark rows) ++ [']']

/-- The brackets and the cells of an array. -/
def body (a : NumericArray) (sep : List Char) (indent width : Nat) : List Char :=
  if a.cells.isEmpty then ['[', ']']
  else
    let isLong := decide (maxCells < a.cells.length)
    let kept := if isLong then { a with cells := keptCells a.shape a.cells } else a
    nestedText sep isLong indent width a.shape (cellTexts kept)

end ArrayText

open ArrayText

/-- The text of the lengths of an array. -/
def shapeText (shape : List Nat) : String :=
  match shape with
  | [n] => joinTexts "" ["(", intText n, ",)"]
  | ns => joinTexts "" ["(", joinTexts ", " (ns.map fun n : Nat => intText n), ")"]

namespace NumericArray

/-- The text that an array with an axis is printed as. -/
def rowsText (a : NumericArray) : String := String.ofList (body a [' '] 1 lineWidth)

/-- What has to be said about an array because its cells do not show it. -/
def remarks (a : NumericArray) : List String :=
  let shape :=
    if (a.cells.isEmpty && a.shape ≠ [0]) || maxCells < a.cells.length then
      [s!"shape={shapeText a.shape}"]
    else []
  let isImplied := a.cellType = .double ∨ a.cellType = .integer .int64 ∨ a.cellType = .truth
  let type :=
    if isImplied && !a.cells.isEmpty then [] else [s!"dtype={a.cellType.name}"]
  shape ++ type

/-- The text that messages show for an array. The remarks go on a line of their own if the last line
has no room for them. -/
def inspect (a : NumericArray) : String :=
  let opening := "array(".toList
  let text := opening ++ body a [',', ' '] (opening.length + 1) (lineWidth - 1)
  match a.remarks with
  | [] => String.ofList (text ++ [')'])
  | remarks =>
    let text := text ++ [',']
    let remark := (joinTexts ", " remarks).toList ++ [')']
    let lastLine := (text.reverse.takeWhile (· ≠ '\n')).length
    let hasRoom := lastLine + remark.length + 1 ≤ lineWidth
    let gap := if hasRoom then [' '] else '\n' :: blanks opening.length
    String.ofList (text ++ gap ++ remark)

end NumericArray

end ShaderLoom

/-
# `LoxScan.Text.Break` — where a line may end

The rules by which Unicode finds the places of a text where a line may end.  A place
stands between two atoms, and the rules look at the atoms around it: mostly at the
two beside it, for some rules over spaces, and for quotations, Hebrew hyphens,
syllables and flags also a little further.

The rules have an order.  First come the ends of lines and the characters that no
space parts from their neighbours; then a space parts what stands around it; then
come the rules that keep words, numbers and syllables together; and where none of
these says that two atoms stay together, a line may end between them.
-/
import LoxScan.Text.Atom

namespace LoxScan.Break

open BreakClass

/-! ## Classes -/

/-- The classes of letters other than the Hebrew ones. -/
def plainLetters : List BreakClass := [letter, dottedCircle]

/-- The classes of letters. -/
def letters : List BreakClass := hebrew :: plainLetters

/-- The classes of ideographs and emoji. -/
def pictures : List BreakClass := [ideograph, emoji, emojiModifier, reservedPicture]

/-- The classes of the letters and syllables of Korean. -/
def hangul : List BreakClass :=
  [leadingJamo, vowelJamo, trailingJamo, openSyllable, closedSyllable]

/-- The classes of the characters that begin a syllable of an Indic script. -/
def aksharas : List BreakClass := [akshara, aksharaStart, dottedCircle]

/-- The classes of quotation marks. -/
def quotations : List BreakClass := [quotation, openingQuote, closingQuote]

/-- The pairs of classes that form words, numbers and syllables, grouped. -/
def companions : List (List BreakClass × List BreakClass) :=
  [(letters, letters), (letters, [digit]), ([digit], letters),
   ([currency], pictures), (pictures, [percent]),
   ([currency, percent], letters), (letters, [currency, percent]),
   ([leadingJamo], [leadingJamo, vowelJamo, openSyllable, closedSyllable]),
   ([vowelJamo, openSyllable], [vowelJamo, trailingJamo]),
   ([trailingJamo, closedSyllable], [trailingJamo]),
   ([closing, parenthesis, digit], [currency, percent]),
   ([currency, percent], [opening, digit]),
   ([hyphen, separator, slash, digit], [digit]),
   (hangul, [percent]), ([currency], hangul),
   ([aksharaPrebase], aksharas), (aksharas, [viramaFinal, virama]),
   ([separator], letters), ([slash], [hebrew]),
   ([emoji, reservedPicture], [emojiModifier])]

/-! ## Places -/

/-- A place between two atoms of a text: the atom before it, what stands before that, nearest first,
the atom behind it, and what follows that. -/
structure Place where
  before : Atom
  earlier : List Atom
  after : Atom
  later : List Atom

namespace Place

/-- What stands before a place and the spaces before it, nearest first. -/
def overSpaces (p : Place) : List Atom :=
  (p.before :: p.earlier).dropWhile (·.kind == space)

/-- The class of the last atom before the spaces; none where nothing but spaces is before. -/
def base? (p : Place) : Option BreakClass :=
  p.overSpaces.head?.map (·.kind)

/-- The class of the atom before the one before the place. -/
def previous? (p : Place) : Option BreakClass :=
  p.earlier.head?.map (·.kind)

/-- The class of the atom behind the one behind the place. -/
def next? (p : Place) : Option BreakClass :=
  p.later.head?.map (·.kind)

/-- Whether the atoms beside a place are of some pair of classes. -/
def isBetween (p : Place) (pairs : List (List BreakClass × List BreakClass)) : Bool :=
  pairs.any fun pair => pair.1.contains p.before.kind && pair.2.contains p.after.kind

/-! ## Ends of lines, spaces and quotations -/

/-- What the ends of lines, zero-width spaces and joiners say of a place, if anything. -/
def atEnds? (p : Place) : Option Bool :=
  if p.before.kind == carriageReturn && p.after.kind == lineFeed then some false
  else if p.before.kind.isLineEnd then some true
  else if !p.after.kind.carriesMarks then some false
  else if p.base? == some zeroWidthSpace then some true
  else if p.before.joined then some false
  else none

/-- Whether an opening quotation mark stands before the spaces and begins a quotation there. -/
def opensQuotation (p : Place) : Bool :=
  match p.overSpaces with
  | [] => false
  | quote :: earlier =>
    quote.kind == openingQuote &&
      earlier.head?.all fun a =>
        !a.kind.carriesMarks || (opening :: glue :: quotations).contains a.kind

/-- Whether a closing quotation mark stands behind the place and ends a quotation there. -/
def closesQuotation (p : Place) : Bool :=
  p.after.kind == closingQuote &&
    p.next?.all fun k =>
      !k.carriesMarks || quotations.contains k
        || [glue, wordJoiner, closing, parenthesis, exclamation, separator, slash].contains k

/-- Whether no space can part what stands around a place. -/
def holdsOverSpaces (p : Place) : Bool :=
  [wordJoiner, closing, parenthesis, exclamation, separator, slash].contains p.after.kind
    || [wordJoiner, glue].contains p.before.kind
    || (p.after.kind == glue && !([space, breakAfter, hyphen].contains p.before.kind))
    || p.base? == some opening
    || p.opensQuotation || p.closesQuotation
    || ((p.base? == some closing || p.base? == some parenthesis) && p.after.kind == nonstarter)
    || (p.base? == some dash && p.after.kind == dash)

/-- Whether a quotation mark beside a place holds what stands around it. -/
def holdsQuotation (p : Place) : Bool :=
  quotations.contains p.before.kind || quotations.contains p.after.kind

/-! ## Words, numbers and syllables -/

/-- Whether a hyphen before the place is behind a Hebrew letter, and no other follows it. -/
def hyphenatesHebrew (p : Place) : Bool :=
  [hyphen, breakAfter].contains p.before.kind && p.previous? == some hebrew
    && p.after.kind != hebrew

/-- Whether a place is inside a syllable of an Indic script, by the rules on more than two atoms. -/
def isInAkshara (p : Place) : Bool :=
  (p.before.kind == virama && p.previous?.any aksharas.contains
      && [akshara, dottedCircle].contains p.after.kind)
    || (aksharas.contains p.before.kind && aksharas.contains p.after.kind
      && p.next? == some viramaFinal)

/-- Whether a bracket belongs to a word beside it; one of the East Asian scripts does not. -/
def isAtBracket (p : Place) : Bool :=
  ((digit :: letters).contains p.before.kind && p.after.kind == opening && !p.after.eastAsian)
    || (p.before.kind == parenthesis && !p.before.eastAsian
      && (digit :: letters).contains p.after.kind)

/-- Whether a place is between the two letters of a flag. -/
def isInFlag (p : Place) : Bool :=
  p.after.kind == regional
    && ((p.before :: p.earlier).takeWhile (·.kind == regional)).length % 2 == 1

/-- Whether the atoms beside a place stay together in a word, a number or a syllable. -/
def holdsWord (p : Place) : Bool :=
  [hyphen, breakAfter, nonstarter, leader].contains p.after.kind
    || p.before.kind == breakBefore
    || p.hyphenatesHebrew
    || p.isBetween companions
    || p.isInAkshara || p.isAtBracket || p.isInFlag

/-! ## The rules in their order -/

/-- Whether a line may end at a place that is neither at the end of a line nor behind a joiner. -/
def mayEnd (p : Place) : Bool :=
  if p.holdsOverSpaces then false
  else if p.before.kind == space then true
  else if p.holdsQuotation then false
  else if p.before.kind == contingent || p.after.kind == contingent then true
  else !p.holdsWord

/-- Whether a line may end at a place. -/
def isBreak (p : Place) : Bool :=
  p.atEnds?.getD p.mayEnd

end Place

/-! ## Texts -/

/-- For each character of some atoms whether a line may end before it, given what stands before,
nearest first. -/
def placesAfter : List Atom → List Atom → List Bool
  | _, [] => []
  | earlier, a :: later =>
    let ends :=
      match earlier with
      | [] => false
      | before :: earlier => Place.isBreak ⟨before, earlier, a, later⟩
    ends :: (List.replicate a.marks false ++ placesAfter (a :: earlier) later)

/-- For each character of a text whether a line may end before it; before the first it may not. -/
def places (text : List Char) : List Bool :=
  placesAfter [] (Atom.ofText text)

theorem length_placesAfter (earlier atoms : List Atom) :
    (placesAfter earlier atoms).length = Atom.length atoms := by
  induction atoms generalizing earlier with
  | nil => rfl
  | cons a later ih =>
    simp [placesAfter, Atom.length, ih]
    omega

theorem length_places (text : List Char) : (places text).length = text.length := by
  rw [places, length_placesAfter, Atom.length_ofText]

end LoxScan.Break

import LintChain.Unicode.Additions
import LintChain.Unicode.Controls
import LintChain.Unicode.Digits
import LintChain.Unicode.Letters
import LintChain.Unicode.Marks
import LintChain.Unicode.Properties
import LintChain.Unicode.Symbols

/-!
The general categories, what follows from them, and what a character is seen as on a page. The
tables are those of one version of the standard; what is said of single characters takes the
additions of the next one into account.
-/

namespace LintChain.Unicode

open Ranges (union unions)

def letter : Ranges :=
  unions [uppercaseLetter, lowercaseLetter, titlecaseLetter, modifierLetter, otherLetter]

def mark : Ranges := unions [nonspacingMark, spacingMark, enclosingMark]

def decimalNumber : Ranges := .ofBounds (zeros.map fun z => (z, z + 9))

def number : Ranges := unions [decimalNumber, letterNumber, otherNumber]

def punctuation : Ranges :=
  unions [connectorPunctuation, dashPunctuation, openPunctuation, closePunctuation,
    initialPunctuation, finalPunctuation, otherPunctuation]

def symbol : Ranges := unions [mathSymbol, currencySymbol, modifierSymbol, otherSymbol]

def separator : Ranges := unions [spaceSeparator, lineSeparator, paragraphSeparator]

/-- What no version has assigned so far. -/
def unassigned : Ranges :=
  (unions [letter, mark, number, punctuation, symbol, separator, control, format,
    privateUse]).complement

/-- All that is no visible character; one range of it spans the surrogates. -/
def other : Ranges := unions [control, format, privateUse, unassigned, .range 0xD7FC 0xF8FF]

def alphabetic : Ranges := unions [letter, letterNumber, otherAlphabetic]

def lowercase : Ranges := lowercaseLetter.union otherLowercase

def uppercase : Ranges := uppercaseLetter.union otherUppercase

def graphemeExtend : Ranges := unions [enclosingMark, nonspacingMark, otherGraphemeExtend]

/-- The word characters: letters, marks, digits, connectors and joiners. -/
def wordCharacter : Ranges :=
  unions [alphabetic, mark, decimalNumber, connectorPunctuation, joinControl]

def isAlphabetic (c : Char) : Bool := alphabetic.contains c || newlyAlphabetic.contains c

def isNumeric (c : Char) : Bool := number.contains c || newlyNumeric.contains c

def isWhiteSpace (c : Char) : Bool := whiteSpace.contains c

def invisible : Ranges := unions [graphemeExtend, otherDefaultIgnorable, separator, other]

/-- Characters that leave no mark of their own on a page, the blank excepted. -/
def isInvisible (c : Char) : Bool :=
  if c.toNat < 127 then c.toNat < 32 else invisible.contains c && !newlyVisible.contains c

end LintChain.Unicode

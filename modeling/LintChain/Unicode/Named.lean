import LintChain.Unicode.Ages
import LintChain.Unicode.Breaks
import LintChain.Unicode.Casing
import LintChain.Unicode.Category
import LintChain.Unicode.ScriptExtensions

/-!
Sets of characters by the names that the standard gives them: general categories, scripts,
properties that hold or do not hold, and properties with values. Case, blanks, hyphens and
underscores in a name do not matter, nor does `is` before it. A set is computed when it is asked
for.
-/

namespace LintChain.Unicode

open Ranges (unions)

structure NamedRanges where
  names : List String
  ranges : Unit → Ranges

def lookUp (entries : List NamedRanges) (name : String) : Option Ranges :=
  (entries.find? fun e => e.names.contains name).map fun e => e.ranges ()

/-- A name as it is compared: what is ASCII of it in lower case, without a leading `is`. -/
def looseName (name : String) : String :=
  let lower := name.toList.map Char.toLower
  let stripped := lower.take 2 = ['i', 's']
  let rest := if stripped then lower.drop 2 else lower
  let plain := rest.filter fun c => c.toNat < 128 ∧ c ≠ ' ' ∧ c ≠ '_' ∧ c ≠ '-'
  if stripped ∧ plain = ['c'] then "isc" else String.ofList plain

/-! ### Categories -/

def categories : List NamedRanges := [
  ⟨["lu", "uppercaseletter"], fun _ => uppercaseLetter⟩,
  ⟨["ll", "lowercaseletter"], fun _ => lowercaseLetter⟩,
  ⟨["lt", "titlecaseletter"], fun _ => titlecaseLetter⟩,
  ⟨["lc", "casedletter"], fun _ => unions [uppercaseLetter, lowercaseLetter, titlecaseLetter]⟩,
  ⟨["lm", "modifierletter"], fun _ => modifierLetter⟩,
  ⟨["lo", "otherletter"], fun _ => otherLetter⟩,
  ⟨["l", "letter"], fun _ => letter⟩,
  ⟨["mn", "nonspacingmark"], fun _ => nonspacingMark⟩,
  ⟨["mc", "spacingmark"], fun _ => spacingMark⟩,
  ⟨["me", "enclosingmark"], fun _ => enclosingMark⟩,
  ⟨["m", "mark", "combiningmark"], fun _ => mark⟩,
  ⟨["nd", "decimalnumber", "digit"], fun _ => decimalNumber⟩,
  ⟨["nl", "letternumber"], fun _ => letterNumber⟩,
  ⟨["no", "othernumber"], fun _ => otherNumber⟩,
  ⟨["n", "number"], fun _ => number⟩,
  ⟨["pc", "connectorpunctuation"], fun _ => connectorPunctuation⟩,
  ⟨["pd", "dashpunctuation"], fun _ => dashPunctuation⟩,
  ⟨["ps", "openpunctuation"], fun _ => openPunctuation⟩,
  ⟨["pe", "closepunctuation"], fun _ => closePunctuation⟩,
  ⟨["pi", "initialpunctuation"], fun _ => initialPunctuation⟩,
  ⟨["pf", "finalpunctuation"], fun _ => finalPunctuation⟩,
  ⟨["po", "otherpunctuation"], fun _ => otherPunctuation⟩,
  ⟨["p", "punctuation", "punct"], fun _ => punctuation⟩,
  ⟨["sm", "mathsymbol"], fun _ => mathSymbol⟩,
  ⟨["sc", "currencysymbol"], fun _ => currencySymbol⟩,
  ⟨["sk", "modifiersymbol"], fun _ => modifierSymbol⟩,
  ⟨["so", "othersymbol"], fun _ => otherSymbol⟩,
  ⟨["s", "symbol"], fun _ => symbol⟩,
  ⟨["zs", "spaceseparator"], fun _ => spaceSeparator⟩,
  ⟨["zl", "lineseparator"], fun _ => lineSeparator⟩,
  ⟨["zp", "paragraphseparator"], fun _ => paragraphSeparator⟩,
  ⟨["z", "separator"], fun _ => separator⟩,
  ⟨["cc", "control", "cntrl"], fun _ => control⟩,
  ⟨["cf", "format"], fun _ => format⟩,
  ⟨["co", "privateuse"], fun _ => privateUse⟩,
  ⟨["cn", "unassigned"], fun _ => unassigned⟩,
  ⟨["c", "other"], fun _ => other⟩,
  ⟨["any"], fun _ => .all⟩,
  ⟨["assigned"], fun _ => unassigned.complement⟩,
  ⟨["ascii"], fun _ => .range 0 0x7F⟩]

/-! ### Properties -/

def math : Ranges := mathSymbol.union otherMath

def changesWhenLowercased : Ranges := (uppercase.union titlecaseLetter).minus withoutLowercase

def changesWhenUppercased : Ranges := (lowercase.union titlecaseLetter).minus withoutUppercase

def changesWhenTitlecased : Ranges :=
  (changesWhenUppercased.minus titledAsUppercase).union titledAlone

def changesWhenCasefolded : Ranges :=
  (changesWhenLowercased.minus foldedUppercase).union foldedLowercase

def changesWhenCasemapped : Ranges :=
  unions [changesWhenLowercased, changesWhenUppercased, changesWhenTitlecased]

def caseIgnorable : Ranges :=
  unions [nonspacingMark, enclosingMark, format, modifierLetter, modifierSymbol, midLetter,
    midNumberOrLetter, .single 39]

def cased : Ranges := unions [lowercase, uppercase, titlecaseLetter]

def defaultIgnorable : Ranges :=
  (unions [otherDefaultIgnorable, format, variationSelector]).minus
    (unions [prependedConcatenationMark, .range 0xFFF9 0xFFFB, .range 0x13430 0x1343F])

def graphemeBase : Ranges :=
  (unions [letter, mark, number, punctuation, symbol, spaceSeparator]).minus graphemeExtend

def pattern : Ranges := patternSyntax.union patternWhiteSpace

def identifierStart : Ranges :=
  (unions [letter, letterNumber, otherIdentifierStart]).minus pattern

def identifierContinue : Ranges :=
  (unions [identifierStart, nonspacingMark, spacingMark, decimalNumber, connectorPunctuation,
    otherIdentifierContinue]).minus pattern

/-- Code points that may stand in an identifier, but no longer when it is normalized. -/
def unstableContinue : Ranges := .ofText [
  "37A 309B-309C FC5E-FC63 FDFA-FDFB FE70 FE72 FE74 FE76 FE78 FE7A FE7C FE7E"]

/-- Code points that may start an identifier, but no longer when it is normalized. -/
def unstableStart : Ranges := unstableContinue.union (.ofText ["E33 EB3 FF9E-FF9F"])

def properties : List NamedRanges := [
  ⟨["asciihexdigit", "ahex"], fun _ => asciiHexDigit⟩,
  ⟨["alphabetic", "alpha"], fun _ => alphabetic⟩,
  ⟨["bidicontrol", "bidic"], fun _ => bidiControl⟩,
  ⟨["bidimirrored", "bidim"], fun _ => bidiMirrored⟩,
  ⟨["caseignorable", "ci"], fun _ => caseIgnorable⟩,
  ⟨["cased"], fun _ => cased⟩,
  ⟨["changeswhencasefolded", "cwcf"], fun _ => changesWhenCasefolded⟩,
  ⟨["changeswhencasemapped", "cwcm"], fun _ => changesWhenCasemapped⟩,
  ⟨["changeswhenlowercased", "cwl"], fun _ => changesWhenLowercased⟩,
  ⟨["changeswhentitlecased", "cwt"], fun _ => changesWhenTitlecased⟩,
  ⟨["changeswhenuppercased", "cwu"], fun _ => changesWhenUppercased⟩,
  ⟨["dash"], fun _ => dash⟩,
  ⟨["defaultignorablecodepoint", "di"], fun _ => defaultIgnorable⟩,
  ⟨["deprecated", "dep"], fun _ => deprecated⟩,
  ⟨["diacritic", "dia"], fun _ => diacritic⟩,
  ⟨["emoji"], fun _ => emoji⟩,
  ⟨["emojicomponent", "ecomp"], fun _ => emojiComponent⟩,
  ⟨["emojimodifier", "emod"], fun _ => emojiModifier⟩,
  ⟨["emojimodifierbase", "ebase"], fun _ => emojiModifierBase⟩,
  ⟨["emojipresentation", "epres"], fun _ => emojiPresentation⟩,
  ⟨["extendedpictographic", "extpict"], fun _ => extendedPictographic⟩,
  ⟨["extender", "ext"], fun _ => extender⟩,
  ⟨["graphemebase", "grbase"], fun _ => graphemeBase⟩,
  ⟨["graphemeextend", "grext"], fun _ => graphemeExtend⟩,
  ⟨["graphemelink", "grlink"], fun _ => graphemeLink⟩,
  ⟨["hexdigit", "hex"], fun _ => hexDigit⟩,
  ⟨["hyphen"], fun _ => hyphen⟩,
  ⟨["idsbinaryoperator", "idsb"], fun _ => binaryDescriptor⟩,
  ⟨["idstrinaryoperator", "idst"], fun _ => trinaryDescriptor⟩,
  ⟨["idsunaryoperator", "idsu"], fun _ => unaryDescriptor⟩,
  ⟨["idcompatmathcontinue"], fun _ => compatMathContinue⟩,
  ⟨["idcompatmathstart"], fun _ => compatMathStart⟩,
  ⟨["idcontinue", "idc"], fun _ => identifierContinue⟩,
  ⟨["idstart", "ids"], fun _ => identifierStart⟩,
  ⟨["ideographic", "ideo"], fun _ => ideographic⟩,
  ⟨["joincontrol", "joinc"], fun _ => joinControl⟩,
  ⟨["logicalorderexception", "loe"], fun _ => logicalOrderException⟩,
  ⟨["lowercase", "lower"], fun _ => lowercase⟩,
  ⟨["math"], fun _ => math⟩,
  ⟨["modifiercombiningmark", "mcm"], fun _ => modifierCombiningMark⟩,
  ⟨["noncharactercodepoint", "nchar"], fun _ => noncharacter⟩,
  ⟨["otheralphabetic", "oalpha"], fun _ => otherAlphabetic⟩,
  ⟨["otherdefaultignorablecodepoint", "odi"], fun _ => otherDefaultIgnorable⟩,
  ⟨["othergraphemeextend", "ogrext"], fun _ => otherGraphemeExtend⟩,
  ⟨["otheridcontinue", "oidc"], fun _ => otherIdentifierContinue⟩,
  ⟨["otheridstart", "oids"], fun _ => otherIdentifierStart⟩,
  ⟨["otherlowercase", "olower"], fun _ => otherLowercase⟩,
  ⟨["othermath", "omath"], fun _ => otherMath⟩,
  ⟨["otheruppercase", "oupper"], fun _ => otherUppercase⟩,
  ⟨["patternsyntax", "patsyn"], fun _ => patternSyntax⟩,
  ⟨["patternwhitespace", "patws"], fun _ => patternWhiteSpace⟩,
  ⟨["prependedconcatenationmark", "pcm"], fun _ => prependedConcatenationMark⟩,
  ⟨["quotationmark", "qmark"], fun _ => quotationMark⟩,
  ⟨["radical"], fun _ => radical⟩,
  ⟨["regionalindicator", "ri"], fun _ => regionalIndicator⟩,
  ⟨["sentenceterminal", "sterm"], fun _ => sentenceTerminal⟩,
  ⟨["softdotted", "sd"], fun _ => softDotted⟩,
  ⟨["terminalpunctuation", "term"], fun _ => terminalPunctuation⟩,
  ⟨["unifiedideograph", "uideo"], fun _ => unifiedIdeograph⟩,
  ⟨["uppercase", "upper"], fun _ => uppercase⟩,
  ⟨["variationselector", "vs"], fun _ => variationSelector⟩,
  ⟨["whitespace", "wspace", "space"], fun _ => whiteSpace⟩,
  ⟨["xidcontinue", "xidc"], fun _ => identifierContinue.minus unstableContinue⟩,
  ⟨["xidstart", "xids"], fun _ => identifierStart.minus unstableStart⟩]

/-! ### Scripts and versions -/

def ofScript (entries : List Script) (name : String) : Option Ranges :=
  (entries.find? fun s => s.names.contains name).map fun s => .ofText s.ranges

def script? (name : String) : Option Ranges := ofScript scripts name

/-- All that is used in a script: its own code points, and those that it shares. -/
def scriptExtensions? (name : String) : Option Ranges := do
  let s ← scripts.find? fun s => s.names.contains name
  let own := Ranges.ofText s.ranges
  if s.names.contains "zyyy" ∨ s.names.contains "zinh" then return own.minus ownedByScripts
  return own.union ((s.names.findSome? (ofScript scriptExtensions)).getD .empty)

/-- All that was assigned in a version, or in one before it. -/
def age? (name : String) : Option Ranges :=
  let upTo := ages.takeWhile fun a => !a.names.contains name
  ages[upTo.length]?.map fun a =>
    unions ((upTo ++ [a]).map fun a => .ofText a.ranges)

/-! ### Divisions of text -/

def clusterControl : Ranges :=
  (unions [control, format, lineSeparator, paragraphSeparator,
    unassigned.inter defaultIgnorable]).minus notBreakControl

def clusterSpacing : Ranges :=
  ((spacingMark.minus graphemeExtend).minus notClusterSpacing).union otherClusterSpacing

/-- The syllables without a trailing consonant, which start every block of twenty-eight. -/
def openSyllable : Ranges := ⟨(List.range 399).map fun i => (0xAC00 + 28 * i, 0xAC00 + 28 * i)⟩

def clusterBreaks : List NamedRanges := [
  ⟨["control", "cn"], fun _ => clusterControl⟩,
  ⟨["cr"], fun _ => .single 13⟩,
  ⟨["extend", "ex"], fun _ => graphemeExtend.union emojiModifier⟩,
  ⟨["l"], fun _ => hangulLeading⟩,
  ⟨["lf"], fun _ => .single 10⟩,
  ⟨["lv"], fun _ => openSyllable⟩,
  ⟨["lvt"], fun _ => (Ranges.range 0xAC00 0xD7A3).minus openSyllable⟩,
  ⟨["prepend", "pp"], fun _ => clusterPrepend⟩,
  ⟨["regionalindicator", "ri"], fun _ => regionalIndicator⟩,
  ⟨["spacingmark", "sm"], fun _ => clusterSpacing⟩,
  ⟨["t"], fun _ => hangulTrailing⟩,
  ⟨["v"], fun _ => hangulVowel⟩,
  ⟨["zwj"], fun _ => .single 0x200D⟩]

def markOrExtend : Ranges := graphemeExtend.union spacingMark

def scriptNamed (name : String) : Ranges := (script? name).getD .empty

def wordKatakana : Ranges := (scriptNamed "kana").union otherKatakana

def wordHebrew : Ranges := (scriptNamed "hebr").inter letter

def wordNumeric : Ranges := decimalNumber.union otherWordNumeric

/-- The scripts whose words are not set off by blanks. -/
def unspacedScripts : Ranges :=
  unions (["thai", "laoo", "mymr", "khmr", "tale", "talu", "lana", "tavt", "ahom"].map scriptNamed)

/-- Letters of the scripts whose words can be told by their letters. -/
def wordLetter : Ranges :=
  (alphabetic.minus (unions [ideographic, wordKatakana, unspacedScripts, scriptNamed "hira",
    markOrExtend, emojiModifier, wordHebrew])).union otherWordLetter

def wordBreaks : List NamedRanges := [
  ⟨["aletter", "le"], fun _ => wordLetter⟩,
  ⟨["cr"], fun _ => .single 13⟩,
  ⟨["doublequote", "dq"], fun _ => .single 34⟩,
  ⟨["extend"], fun _ => markOrExtend.union emojiModifier⟩,
  ⟨["extendnumlet", "ex"], fun _ => connectorPunctuation.union otherExtendNumber⟩,
  ⟨["format", "fo"], fun _ => format.minus notWordFormat⟩,
  ⟨["hebrewletter", "hl"], fun _ => wordHebrew⟩,
  ⟨["katakana", "ka"], fun _ => wordKatakana⟩,
  ⟨["lf"], fun _ => .single 10⟩,
  ⟨["midletter", "ml"], fun _ => midLetter⟩,
  ⟨["midnum", "mn"], fun _ => midNumber⟩,
  ⟨["midnumlet", "mb"], fun _ => midNumberOrLetter⟩,
  ⟨["newline", "nl"], fun _ => wordNewline⟩,
  ⟨["numeric", "nu"], fun _ => wordNumeric⟩,
  ⟨["regionalindicator", "ri"], fun _ => regionalIndicator⟩,
  ⟨["singlequote", "sq"], fun _ => .single 39⟩,
  ⟨["wsegspace"], fun _ => wordSpace⟩,
  ⟨["zwj"], fun _ => .single 0x200D⟩]

def sentenceLower : Ranges := (lowercase.minus graphemeExtend).minus notSentenceLower

def sentenceUpper : Ranges := (uppercase.union titlecaseLetter).minus notSentenceUpper

def sentenceExtend : Ranges := markOrExtend.union (.single 0x200D)

def sentenceBreaks : List NamedRanges := [
  ⟨["aterm", "at"], fun _ => sentenceDot⟩,
  ⟨["cr"], fun _ => .single 13⟩,
  ⟨["close", "cl"], fun _ => sentenceClose⟩,
  ⟨["extend", "ex"], fun _ => sentenceExtend⟩,
  ⟨["format", "fo"], fun _ => format.minus notSentenceFormat⟩,
  ⟨["lf"], fun _ => .single 10⟩,
  ⟨["lower", "lo"], fun _ => sentenceLower⟩,
  ⟨["numeric", "nu"], fun _ => wordNumeric.union (.single 0x66C)⟩,
  ⟨["oletter", "le"], fun _ =>
    (alphabetic.minus (unions [sentenceLower, sentenceUpper, sentenceExtend])).union
      (.single 0x5F3)⟩,
  ⟨["scontinue", "sc"], fun _ => sentenceContinue⟩,
  ⟨["sterm", "st"], fun _ => sentenceTerminal.minus sentenceDot⟩,
  ⟨["sep", "se"], fun _ => sentenceSeparator⟩,
  ⟨["sp"], fun _ => sentenceSpace⟩,
  ⟨["upper", "up"], fun _ => sentenceUpper⟩]

/-! ### Look-up -/

def category? (name : String) : Option Ranges := lookUp categories name

/-- A set by its name alone: a property, a category or a script. -/
def named? (name : String) : Option Ranges :=
  let name := looseName name
  ((lookUp properties name).orElse fun _ => category? name).orElse fun _ => script? name

/-- A set by the name of a property and its value. -/
def valued? (property value : String) : Option Ranges :=
  let value := looseName value
  match looseName property with
  | "generalcategory" | "gc" => category? value
  | "script" | "sc" => script? value
  | "scriptextensions" | "scx" => scriptExtensions? value
  | "age" => age? value
  | "graphemeclusterbreak" | "gcb" => lookUp clusterBreaks value
  | "wordbreak" | "wb" => lookUp wordBreaks value
  | "sentencebreak" | "sb" => lookUp sentenceBreaks value
  | _ => none

end LintChain.Unicode

import LintChain.Unicode.Ranges

/-!
Tables for the division of text into clusters, words and sentences: what the categories do not
tell of it.
-/

namespace LintChain.Unicode

/-- Controls and formats that do not part clusters. -/
def notBreakControl : Ranges := Ranges.ofText [
    "A D 600-605 6DD 70F 890-891 8E2 200C-200D 110BD 110CD E0020-E007F"]

/-- Spacing marks that do not belong to the cluster before them. -/
def notClusterSpacing : Ranges := Ranges.ofText [
    "102B-102C 1038 1062-1064 1067-106D 1083 1087-108C 108F 109A-109C 1A61 1A63-1A64 AA7B AA7D",
    "11720-11721"]

/-- Letters that belong to the cluster before them. -/
def otherClusterSpacing : Ranges := Ranges.ofText [
    "E33 EB3"]

/-- Code points that belong to the cluster after them. -/
def clusterPrepend : Ranges := Ranges.ofText [
    "600-605 6DD 70F 890-891 8E2 D4E 110BD 110CD 111C2-111C3 113D1 1193F 11941 11A3A 11A84-11A89",
    "11D46 11F02"]

def hangulLeading : Ranges := Ranges.ofText [
    "1100-115F A960-A97C"]

def hangulVowel : Ranges := Ranges.ofText [
    "1160-11A7 D7B0-D7C6 16D63 16D67-16D6A"]

def hangulTrailing : Ranges := Ranges.ofText [
    "11A8-11FF D7CB-D7FB"]

def midLetter : Ranges := Ranges.ofText [
    "3A B7 387 55F 5F4 2027 FE13 FE55 FF1A"]

def midNumber : Ranges := Ranges.ofText [
    "2C 3B 37E 589 60C-60D 66C 7F8 2044 FE50 FE54 FF0C FF1B"]

def midNumberOrLetter : Ranges := Ranges.ofText [
    "2E 2018-2019 2024 FE52 FF07 FF0E"]

def wordNewline : Ranges := Ranges.ofText [
    "B-C 85 2028-2029"]

def wordSpace : Ranges := Ranges.ofText [
    "20 1680 2000-2006 2008-200A 205F 3000"]

/-- Formats that a division into words treats otherwise. -/
def notWordFormat : Ranges := Ranges.ofText [
    "600-605 6DD 70F 890-891 8E2 200B-200D 110BD 110CD E0020-E007F"]

/-- Signs that words of that script hold. -/
def otherKatakana : Ranges := Ranges.ofText [
    "3031-3035 309B-309C 30A0 30FC FF70"]

/-- Numeric within words, though no decimal digit. -/
def otherWordNumeric : Ranges := Ranges.ofText [
    "600-605 66B 6DD 890-891 8E2 19DA 110BD 110CD"]

/-- Joins numbers, though no connector. -/
def otherExtendNumber : Ranges := Ranges.ofText [
    "202F"]

/-- Letters within words, though not alphabetic. -/
def otherWordLetter : Ranges := Ranges.ofText [
    "2C2-2C5 2D2-2D7 2DE-2DF 2E5-2EB 2ED 2EF-2FF 55A-55C 55E 58A 5F3 70F A708-A716 A720-A721",
    "A789-A78A AB5B"]

/-- Lower-case letters whose words show no end of a sentence. -/
def notSentenceLower : Ranges := Ranges.ofText [
    "10D0-10FA 10FD-10FF"]

/-- Upper-case letters that start no sentence. -/
def notSentenceUpper : Ranges := Ranges.ofText [
    "1C90-1CBA 1CBD-1CBF"]

/-- Formats that a division into sentences treats otherwise. -/
def notSentenceFormat : Ranges := Ranges.ofText [
    "600-605 6DD 890-891 8E2 200C-200D 110BD 110CD E0020-E007F"]

def sentenceClose : Ranges := Ranges.ofText [
    "22 27-29 5B 5D 7B 7D AB BB F3A-F3D 169B-169C 2018-201F 2039-203A 2045-2046 207D-207E",
    "208D-208E 2308-230B 2329-232A 275B-2760 2768-2775 27C5-27C6 27E6-27EF 2983-2998 29D8-29DB",
    "29FC-29FD 2E00-2E0D 2E1C-2E1D 2E20-2E29 2E42 2E55-2E5C 3008-3011 3014-301B 301D-301F",
    "FD3E-FD3F FE17-FE18 FE35-FE44 FE47-FE48 FE59-FE5E FF08-FF09 FF3B FF3D FF5B FF5D FF5F-FF60",
    "FF62-FF63 1F676-1F678"]

def sentenceDot : Ranges := Ranges.ofText [
    "2E 2024 FE52 FF0E"]

def sentenceContinue : Ranges := Ranges.ofText [
    "2C-2D 3A-3B 37E 55D 60C-60D 7F8 1802 1808 2013-2014 3001 FE10-FE11 FE13-FE14 FE31-FE32",
    "FE50-FE51 FE54-FE55 FE58 FE63 FF0C-FF0D FF1A-FF1B FF64"]

def sentenceSeparator : Ranges := Ranges.ofText [
    "85 2028-2029"]

def sentenceSpace : Ranges := Ranges.ofText [
    "9 B-C 20 A0 1680 2000-200A 202F 205F 3000"]

end LintChain.Unicode
